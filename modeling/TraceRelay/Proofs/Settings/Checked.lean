import TraceRelay.Settings.Basic
import TraceRelay.Proofs.Routing.Dotted
import TraceRelay.Proofs.Routing.Spellings
/-! Settings that have been checked. The first fault in the order of the checks is the one that is named, and settings
without one are completed: each part of them is as the rest of the program needs it, nothing that was given is lost,
and there is nothing left to do for a second check, whatever host makes it. -/
namespace TraceRelay

namespace Text

instance (cs : List Char) : Decidable (Blank cs) := decidable_of_iff (cs.all isBlank = true) List.all_eq_true

/-- A text without the blanks around it. -/
structure Trimmed (whole inner : List Char) : Prop where
  around : ∃ left right, whole = left ++ inner ++ right ∧ Blank left ∧ Blank right
  first : ∀ c, inner.head? = some c → isBlank c = false
  last : ∀ c, inner.getLast? = some c → isBlank c = false

theorem trimTrimmed (cs : List Char) : Trimmed cs (trimChars cs) :=
  ⟨trimSplit cs, fun _ => trimCharsHead, fun _ => trimCharsLast⟩

theorem trimmedIs {whole inner : List Char} (trimmed : Trimmed whole inner) : trimChars whole = inner := by
  obtain ⟨left, right, rfl, before, after⟩ := trimmed.around
  rw [List.append_assoc, trimFront before, trimBack inner after, trimStays trimmed.first trimmed.last]

theorem trimAgain (s : String) : trim (trim s) = trim s := by
  rw [trim, trim, String.toList_ofList, trimTwice]

theorem trimNothing {s : String} : trim s = "" ↔ Blank s.toList := by
  have chars : trim s = "" ↔ trimChars s.toList = [] := by
    rw [trim, ← String.toList_inj, String.toList_ofList]
    rfl
  rw [chars]
  refine ⟨fun nothing => ?_, fun blank => ?_⟩
  · obtain ⟨left, right, whole, before, after⟩ := trimSplit s.toList
    rw [whole, nothing, List.append_nil]
    exact List.forall_mem_append.mpr ⟨before, after⟩
  · have whole := trimFront blank []
    rw [List.append_nil] at whole
    exact whole

theorem blankText (s : String) : isBlankText s = decide (Blank s.toList) := by
  rw [Bool.eq_iff_iff, decide_eq_true_eq]
  exact List.all_eq_true

end Text

namespace Settings
open Text (Blank Trimmed)
open Routing (LowerWord dotted)

/-- The first fault, in the order of the checks. -/
inductive Faulty (s : Settings) : Fault → Prop
  | domain (blank : Blank s.domain.toList) : Faulty s .missingDomain
  | servers (named : ¬ Blank s.domain.toList) (unserved : ∀ server ∈ s.servers, Blank server.toList) :
      Faulty s .missingServers
  | normal (named : ¬ Blank s.domain.toList) (served : ∃ server ∈ s.servers, ¬ Blank server.toList)
      (negative : s.normalWorkers < 0) : Faulty s (.negativeWorkers normalSetting)
  | high (named : ¬ Blank s.domain.toList) (served : ∃ server ∈ s.servers, ¬ Blank server.toList)
      (enough : 0 ≤ s.normalWorkers) (negative : s.highWorkers < 0) : Faulty s (.negativeWorkers highSetting)

structure Faultless (s : Settings) : Prop where
  named : ¬ Blank s.domain.toList
  served : ∃ server ∈ s.servers, ¬ Blank server.toList
  normal : 0 ≤ s.normalWorkers
  high : 0 ≤ s.highWorkers

/-- What was given stays, but for the blanks around the domain, servers without a name and the digits of the address. -/
structure Preserved (s r : Settings) : Prop where
  logLevel : s.logLevel ≠ "" → r.logLevel = s.logLevel
  hostname : s.hostname ≠ "" → r.hostname = s.hostname
  environment : s.environment ≠ "" → r.environment = s.environment
  ip : s.ip ≠ "" → r.ip = s.ip
  routers : r.routers = s.routers
  sample : s.sample.isFinite = true → r.sample = s.sample
  normalWorkers : r.normalWorkers = s.normalWorkers
  highWorkers : r.highWorkers = s.highWorkers
  address : r.address = s.address
  readTimeout : r.readTimeout = s.readTimeout
  writeTimeout : r.writeTimeout = s.writeTimeout

/-- What the rest of the program relies on. -/
structure Usable (r : Settings) : Prop where
  named : r.domain ≠ ""
  served : r.servers ≠ []
  workers : 1 ≤ workers r.normalWorkers ∧ 1 ≤ workers r.highWorkers
  sample : r.sample.isFinite = true
  environment : r.environment ≠ ""
  logLevel : r.logLevel ≠ ""
  digits : LowerWord r.ipHex
  address : ∀ octets : List UInt8, octets.length = 4 → Trimmed r.ip.toList (dotted octets) →
    Text.ofHex? r.ipHex = some octets
  loopback : (∀ octets : List UInt8, octets.length = 4 → ¬ Trimmed r.ip.toList (dotted octets)) →
    r.ipHex = loopbackHex

variable {s r : Settings} {host : Host}

/-! Faults -/

theorem faultyOrNot (s : Settings) : (∃ f, Faulty s f) ∨ Faultless s := by
  by_cases named : Blank s.domain.toList
  · exact .inl ⟨_, .domain named⟩
  by_cases unserved : ∀ server ∈ s.servers, Blank server.toList
  · exact .inl ⟨_, .servers named unserved⟩
  have served : ∃ server ∈ s.servers, ¬ Blank server.toList := by simpa using unserved
  by_cases normal : s.normalWorkers < 0
  · exact .inl ⟨_, .normal named served normal⟩
  by_cases high : s.highWorkers < 0
  · exact .inl ⟨_, .high named served (Int64.not_lt.mp normal) high⟩
  exact .inr ⟨named, served, Int64.not_lt.mp normal, Int64.not_lt.mp high⟩

theorem unservedIff : s.servers.all Text.isBlankText = true ↔ ∀ server ∈ s.servers, Blank server.toList := by
  simp only [List.all_eq_true, Text.blankText, decide_eq_true_eq]

theorem servedNot (served : ∃ server ∈ s.servers, ¬ Blank server.toList) : ¬ s.servers.all Text.isBlankText = true := by
  obtain ⟨server, member, visible⟩ := served
  exact fun all => visible (unservedIff.mp all server member)

theorem faultyChecked {f : Fault} (faulty : Faulty s f) (host : Host) : s.checked? host = .error f := by
  have fault : s.fault? = some f := by
    simp only [fault?, Text.trimNothing]
    cases faulty with
    | domain blank => rw [if_pos blank]
    | servers named unserved => rw [if_neg named, if_pos (unservedIff.mpr unserved)]
    | normal named served negative => rw [if_neg named, if_neg (servedNot served), if_pos negative]
    | high named served enough negative =>
      rw [if_neg named, if_neg (servedNot served), if_neg (Int64.not_lt.mpr enough), if_pos negative]
  rw [checked?, fault]

theorem faultlessChecked (faultless : Faultless s) (host : Host) : s.checked? host = .ok (s.completed host) := by
  obtain ⟨named, served, normal, high⟩ := faultless
  have fault : s.fault? = none := by
    simp only [fault?, Text.trimNothing]
    rw [if_neg named, if_neg (servedNot served), if_neg (Int64.not_lt.mpr normal), if_neg (Int64.not_lt.mpr high)]
  rw [checked?, fault]

theorem checkedFaulty {f : Fault} : s.checked? host = .error f ↔ Faulty s f := by
  refine ⟨fun refused => ?_, fun faulty => faultyChecked faulty host⟩
  rcases faultyOrNot s with ⟨g, faulty⟩ | faultless
  · rw [faultyChecked faulty] at refused
    exact Except.error.inj refused ▸ faulty
  · rw [faultlessChecked faultless] at refused
    cases refused

theorem checkedFaultless : s.checked? host = .ok r ↔ Faultless s ∧ r = s.completed host := by
  constructor
  · intro accepted
    rcases faultyOrNot s with ⟨g, faulty⟩ | faultless
    · rw [faultyChecked faulty] at accepted
      cases accepted
    · rw [faultlessChecked faultless] at accepted
      exact ⟨faultless, (Except.ok.inj accepted).symm⟩
  · rintro ⟨faultless, rfl⟩
    exact faultlessChecked faultless host

/-! What is completed -/

theorem orElseKept {value : String} (filled : value ≠ "") (otherwise : String) : orElse value otherwise = value :=
  if_neg filled

theorem orElseFilled {value otherwise : String} (filled : otherwise ≠ "") : orElse value otherwise ≠ "" := by
  unfold orElse
  split
  · exact filled
  · assumption

theorem workersSome (configured : Int64) : 1 ≤ workers configured := by
  unfold workers
  split
  · decide
  · rename_i more
    have positive := Int64.lt_iff_toInt_lt.mp (Int64.not_le.mp more)
    rw [Int64.toInt_zero] at positive
    omega

theorem completedServers (s : Settings) (host : Host) :
    (s.completed host).servers = s.servers.filter fun server => ¬ Blank server.toList := by
  refine congrArg (List.filter · s.servers) (funext fun server => ?_)
  rw [Text.blankText, decide_not]

theorem completedFinite (s : Settings) (host : Host) : (s.completed host).sample.isFinite = true := by
  dsimp only [completed]
  split
  · assumption
  · decide

theorem completedPreserved (s : Settings) (host : Host) : Preserved s (s.completed host) where
  logLevel filled := orElseKept filled _
  hostname filled := orElseKept filled _
  environment filled := orElseKept filled _
  ip filled := orElseKept filled _
  routers := rfl
  sample finite := if_pos finite
  normalWorkers := rfl
  highWorkers := rfl
  address := rfl
  readTimeout := rfl
  writeTimeout := rfl

theorem hexOfDotted {ip : String} {octets : List UInt8} (four : octets.length = 4)
    (trimmed : Trimmed ip.toList (dotted octets)) : Routing.ipHex? ip = some (Text.hex octets) := by
  have read : Routing.ipv4? (Text.trimChars ip.toList) = some octets :=
    Routing.ipv4Iff.mpr ⟨four, Text.trimmedIs trimmed⟩
  rw [Routing.ipHex?, read, Option.map_some]

theorem dottedOfHex {ip word : String} (hex : Routing.ipHex? ip = some word) :
    ∃ octets : List UInt8, octets.length = 4 ∧ Trimmed ip.toList (dotted octets) ∧ word = Text.hex octets := by
  obtain ⟨octets, read, rfl⟩ := Option.map_eq_some_iff.mp hex
  obtain ⟨four, written⟩ := Routing.ipv4Iff.mp read
  exact ⟨octets, four, written ▸ Text.trimTrimmed ip.toList, rfl⟩

theorem loopbackLower : LowerWord loopbackHex := @Routing.hexLower [127, 0, 0, 1] rfl

theorem completedUsable (faultless : Faultless s) (host : Host) : Usable (s.completed host) where
  named empty := faultless.named (Text.trimNothing.mp empty)
  served none := by
    obtain ⟨server, member, visible⟩ := faultless.served
    rw [completedServers, List.filter_eq_nil_iff] at none
    exact none server member (decide_eq_true visible)
  workers := ⟨workersSome _, workersSome _⟩
  sample := completedFinite s host
  environment := orElseFilled (by decide)
  logLevel := orElseFilled (by decide)
  digits := by
    dsimp only [completed]
    cases hex : Routing.ipHex? (orElse s.ip host.ip) with
    | none => exact loopbackLower
    | some word =>
      obtain ⟨octets, four, -, rfl⟩ := dottedOfHex hex
      exact Routing.hexLower four
  address octets four trimmed := by
    have hex := hexOfDotted four trimmed
    dsimp only [completed] at hex ⊢
    rw [hex]
    exact Routing.hexRead octets
  loopback other := by
    dsimp only [completed] at other ⊢
    cases hex : Routing.ipHex? (orElse s.ip host.ip) with
    | none => rfl
    | some word =>
      obtain ⟨octets, four, trimmed, -⟩ := dottedOfHex hex
      exact absurd trimmed (other octets four)

/-! Checked again -/

theorem completedFaultless (faultless : Faultless s) (host : Host) : Faultless (s.completed host) := by
  obtain ⟨named, ⟨server, member, visible⟩, normal, high⟩ := faultless
  refine ⟨fun blank => ?_, ⟨server, ?_, visible⟩, normal, high⟩
  · have nothing : Text.trim (Text.trim s.domain) = "" := Text.trimNothing.mpr blank
    rw [Text.trimAgain] at nothing
    exact named (Text.trimNothing.mp nothing)
  · rw [completedServers]
    exact List.mem_filter.mpr ⟨member, decide_eq_true visible⟩

theorem completedTwice (name : host.name ≠ "") (ip : host.ip ≠ "") (s : Settings) (again : Host) :
    (s.completed host).completed again = s.completed host := by
  have filled : ∀ {value otherwise : String}, otherwise ≠ "" → ∀ more,
      orElse (orElse value otherwise) more = orElse value otherwise :=
    fun given more => orElseKept (orElseFilled given) more
  have servers : ((s.completed host).completed again).servers = (s.completed host).servers := by
    simp only [completedServers, List.filter_filter, Bool.and_self]
  -- The digits are read again from an address that is there already.
  have digits : (Routing.ipHex? (orElse (orElse s.ip host.ip) again.ip)).getD loopbackHex =
      (Routing.ipHex? (orElse s.ip host.ip)).getD loopbackHex := by rw [filled ip]
  dsimp only [completed] at servers ⊢
  simp only [Settings.mk.injEq, true_and, and_true]
  exact ⟨filled (by decide) _, Text.trimAgain _, filled name _, filled (by decide) _, filled ip _, digits, servers,
    if_pos (completedFinite s host)⟩

/-- The first fault is named, and where there is none the settings are completed, once for all. -/
theorem checkedOnce (s : Settings) (host : Host) :
    (∀ f, s.checked? host = .error f ↔ Faulty s f) ∧
    ((∃ r, s.checked? host = .ok r) ↔ Faultless s) ∧
    ∀ r, s.checked? host = .ok r → Usable r ∧ Trimmed s.domain.toList r.domain.toList ∧
      r.servers = s.servers.filter (fun server => ¬ Blank server.toList) ∧ Preserved s r ∧
      (host.name ≠ "" → host.ip ≠ "" → r.hostname ≠ "" ∧ r.ip ≠ "" ∧ ∀ again, r.checked? again = .ok r) := by
  refine ⟨fun f => checkedFaulty, ⟨?_, fun faultless => ⟨_, faultlessChecked faultless host⟩⟩, ?_⟩
  · rintro ⟨r, accepted⟩
    exact (checkedFaultless.mp accepted).1
  · intro r accepted
    obtain ⟨faultless, rfl⟩ := checkedFaultless.mp accepted
    have domain : Trimmed s.domain.toList (s.completed host).domain.toList := by
      have chars : (Text.trim s.domain).toList = Text.trimChars s.domain.toList := String.toList_ofList
      rw [completed, chars]
      exact Text.trimTrimmed s.domain.toList
    refine ⟨completedUsable faultless host, domain, completedServers s host, completedPreserved s host, fun name ip => ?_⟩
    refine ⟨orElseFilled name, orElseFilled ip, fun again => ?_⟩
    rw [faultlessChecked (completedFaultless faultless host), completedTwice name ip]

theorem paddedAddressChecked :
    let s : Settings := {
      logLevel := "", domain := " shop\t", servers := ["\t", "10.0.0.1:8080", ""], ip := " 10.1.2.255", sample := 0.0 / 0.0
      highWorkers := 3 }
    let host : Host := ⟨"host-1", "10.0.0.1"⟩
    ({ s with domain := "\t" } : Settings).checked? host = .error .missingDomain ∧
    ∃ r, s.checked? host = .ok r ∧ Usable r ∧ r.servers = ["10.0.0.1:8080"] ∧ r.ip = " 10.1.2.255" ∧
      Text.ofHex? r.ipHex = some [10, 1, 2, 255] ∧ ∀ again, r.checked? again = .ok r := by
  intro s host
  have blank := ((checkedOnce { s with domain := "\t" } host).1 .missingDomain).mpr (.domain (by decide))
  obtain ⟨-, accepted, completes⟩ := checkedOnce s host
  obtain ⟨r, ok⟩ := accepted.mpr ⟨by decide, ⟨"10.0.0.1:8080", by simp [s], by decide⟩, by decide, by decide⟩
  obtain ⟨usable, -, servers, preserved, detected⟩ := completes r ok
  have ip : r.ip = " 10.1.2.255" := preserved.ip (by decide)
  have trimmed : Trimmed r.ip.toList (dotted [10, 1, 2, 255]) := by
    have inner : Text.trimChars " 10.1.2.255".toList = dotted [10, 1, 2, 255] := by decide +kernel
    rw [ip, ← inner]
    exact Text.trimTrimmed _
  obtain ⟨-, -, again⟩ := detected (by decide) (by decide)
  exact ⟨blank, r, ok, usable, servers.trans (by decide +kernel), ip, usable.address _ rfl trimmed, again⟩

end Settings

end TraceRelay
