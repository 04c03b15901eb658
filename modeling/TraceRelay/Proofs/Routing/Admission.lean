import TraceRelay.Agent
import TraceRelay.Proofs.Control.Failover
import TraceRelay.Proofs.Routing.Spellings
/-! What gets into a routing table. A segment is taken for its one colon, so that one without a host or without a port
is taken as well. Where no list has such a segment, each address is a host and a port, and an agent that started has one. -/
namespace TraceRelay

namespace Control

/-- The updates of the good answer, if there is one. -/
def heard (servers : List (String × Outcome)) : List Routing.Update := ((ask servers).2.map updates).getD []

theorem pollHeard (servers : List (String × Outcome)) (r : Routing) :
    (pollEach servers r).routing = r.applyAll (heard servers) := by
  unfold pollEach heard
  cases ask servers with
  | mk asked document => cases document <;> rfl

theorem heardRouters {servers : List (String × Outcome)} {value : String} (member : .routers value ∈ heard servers) :
    ∃ x ∈ servers, ∃ body, x.2.Good body ∧ ("routers", value) ∈ Routing.Property.parse (Text.lossy body) := by
  unfold heard at member
  rcases askCases servers with ⟨before, server, outcome, after, body, rfl, -, good, asked⟩ | ⟨-, asked⟩
  · rw [asked] at member
    obtain ⟨⟨id, text⟩, property, update⟩ := List.mem_filterMap.mp member
    refine ⟨(server, outcome), List.mem_append_right _ List.mem_cons_self, body, good, ?_⟩
    have named : id = "routers" ∧ text = value := by
      simp only [update?] at update
      split at update
      · cases update
      · split at update
        · cases update
          exact ⟨‹_›, rfl⟩
        · split at update <;> cases update
    rw [← named.1, ← named.2]
    exact property
  · rw [asked] at member
    cases member

end Control

namespace Routing
open Text (Blank trimChars splitOn)

def segments (value : String) : List (List Char) := (splitOn ';' value.toList).map trimChars

inductive HostPort : List Char → Prop
  | split {host port} (named : ¬ Blank host) (numbered : ¬ Blank port) (first : ':' ∉ host) (second : ':' ∉ port) :
      HostPort (host ++ ':' :: port)

/-- One colon with nothing before it or nothing after it. -/
inductive Lopsided : List Char → Prop
  | noHost {port} (whole : ':' ∉ port) : Lopsided (':' :: port)
  | noPort {host} (whole : ':' ∉ host) : Lopsided (host ++ [':'])

def Upright (value : String) : Prop := ∀ segment ∈ segments value, ¬ Lopsided segment

theorem aroundColon {cs : List Char} (one : cs.count ':' = 1) :
    ∃ host port, cs = host ++ ':' :: port ∧ ':' ∉ host ∧ ':' ∉ port := by
  have inside : ':' ∈ cs := List.count_pos_iff.mp (by omega)
  obtain ⟨host, port, rfl⟩ := List.append_of_mem inside
  rw [List.count_append, List.count_cons_self] at one
  exact ⟨host, port, rfl, List.count_eq_zero.mp (by omega), List.count_eq_zero.mp (by omega)⟩

theorem trimmedFront {host rest : List Char} (trimmed : trimChars (host ++ rest) = host ++ rest) (blank : Blank host) :
    host = [] := by
  cases host with
  | nil => rfl
  | cons c host =>
    have visible := @Text.trimCharsHead ((c :: host) ++ rest) c (by rw [trimmed]; rfl)
    exact absurd (blank c List.mem_cons_self) (by rw [visible]; exact Bool.false_ne_true)

theorem trimmedBack {rest port : List Char} (trimmed : trimChars (rest ++ port) = rest ++ port) (blank : Blank port) :
    port = [] := by
  cases last : port.getLast? with
  | none => exact List.getLast?_eq_none_iff.mp last
  | some c =>
    have visible := @Text.trimCharsLast (rest ++ port) c (by rw [trimmed, List.getLast?_append, last]; rfl)
    exact absurd (blank c (List.mem_of_getLast? last)) (by rw [visible]; exact Bool.false_ne_true)

theorem usableShape {cs : List Char} (trimmed : trimChars cs = cs) : usable cs = true ↔ HostPort cs ∨ Lopsided cs := by
  have count := usableIff cs
  rw [trimmed] at count
  rw [count]
  constructor
  · intro one
    obtain ⟨host, port, rfl, first, second⟩ := aroundColon one
    by_cases noHost : Blank host
    · rw [trimmedFront trimmed noHost]
      exact .inr (.noHost second)
    · by_cases noPort : Blank port
      · have split : host ++ ':' :: port = (host ++ [':']) ++ port := by rw [List.append_assoc]; rfl
        rw [split] at trimmed ⊢
        rw [trimmedBack trimmed noPort, List.append_nil]
        exact .inr (.noPort first)
      · exact .inl (.split noHost noPort first second)
  · rintro (⟨named, numbered, first, second⟩ | whole | whole)
    · rw [List.count_append, List.count_cons_self, List.count_eq_zero.mpr first, List.count_eq_zero.mpr second]
    · rw [List.count_cons_self, List.count_eq_zero.mpr whole]
    · rw [List.count_append, List.count_eq_zero.mpr whole]
      rfl

theorem memSegments {value a : String} :
    a ∈ addresses value ↔ a.toList ∈ segments value ∧ (HostPort a.toList ∨ Lopsided a.toList) := by
  have trimmed : ∀ segment ∈ segments value, trimChars segment = segment := by
    intro segment member
    obtain ⟨piece, -, rfl⟩ := List.mem_map.mp member
    exact Text.trimTwice piece
  constructor
  · intro listed
    obtain ⟨segment, kept, rfl⟩ := List.mem_map.mp listed
    obtain ⟨member, used⟩ := List.mem_filter.mp kept
    rw [String.toList_ofList]
    exact ⟨member, (usableShape (trimmed segment member)).mp used⟩
  · rintro ⟨member, shape⟩
    have used := (usableShape (trimmed _ member)).mpr shape
    exact List.mem_map.mpr ⟨a.toList, List.mem_filter.mpr ⟨member, used⟩, String.ofList_toList⟩

theorem noAddress {value : String} (none : ∀ segment ∈ segments value, ¬ HostPort segment ∧ ¬ Lopsided segment) :
    addresses value = [] := by
  refine List.eq_nil_iff_forall_not_mem.mpr fun a listed => ?_
  obtain ⟨member, shape⟩ := memSegments.mp listed
  exact shape.elim (none _ member).1 (none _ member).2

theorem refusedStill {value : String} (r : Routing) (nothing : addresses value = []) :
    r.changes value = false ∧ r.apply (.routers value) = r := by
  rcases routersCases r value with same | ⟨changed, -⟩
  · exact same
  · exact absurd nothing ((changesIff r value).mp changed).1

def startUpdates (s : Settings) (answer : String → Control.Outcome) (servers : List String) : List Update :=
  (s.routers.map Update.routers).toList ++ Control.heard (servers.map fun server => (server, answer server))

theorem startRun (s : Settings) (answer : String → Control.Outcome) (servers : List String) :
    Agent.startRouting s answer servers = run s.sample (startUpdates s answer servers) := by
  rw [Agent.startRouting, Control.poll, Control.pollHeard, run, startUpdates, applyAllAppend]
  cases s.routers <;> rfl

theorem startedTable {s : Settings} {hour : Int64} {answer : String → Control.Outcome} {servers : List String}
    {a : Agent} (started : Agent.start? s hour answer servers = .ok a) :
    a.pipeline.routing.table = (run s.sample (startUpdates s answer servers)).table ∧
      a.pipeline.routing.table ≠ [] := by
  rw [Agent.start?] at started
  split at started
  · cases started
  · rename_i filled
    cases started
    exact ⟨congrArg Routing.table (startRun s answer servers), filled⟩

structure Admission (ratio : Float) (us : List Update) : Prop where
  entered : ∀ address ∈ (run ratio us).table, (HostPort address.toList ∨ Lopsided address.toList) ∧
    ∃ value, .routers value ∈ us ∧ address.toList ∈ segments value
  refused : ∀ value, (∀ segment ∈ segments value, ¬ HostPort segment ∧ ¬ Lopsided segment) →
    (run ratio us).changes value = false ∧ run ratio (us ++ [.routers value]) = run ratio us
  upright : (∀ value, .routers value ∈ us → Upright value) → ∀ address ∈ (run ratio us).table, HostPort address.toList
  uprightRefused : ∀ value, Upright value → (∀ segment ∈ segments value, ¬ HostPort segment) →
    (run ratio us).changes value = false ∧ run ratio (us ++ [.routers value]) = run ratio us

theorem admitted (ratio : Float) (us : List Update) : Admission ratio us := by
  have entered : ∀ address ∈ (run ratio us).table, (HostPort address.toList ∨ Lopsided address.toList) ∧
      ∃ value, .routers value ∈ us ∧ address.toList ∈ segments value := by
    intro address member
    obtain ⟨value, given, listed⟩ := tableGiven member
    obtain ⟨segment, shape⟩ := memSegments.mp listed
    exact ⟨shape, value, given, segment⟩
  have refused : ∀ value, (∀ segment ∈ segments value, ¬ HostPort segment ∧ ¬ Lopsided segment) →
      (run ratio us).changes value = false ∧ run ratio (us ++ [.routers value]) = run ratio us := by
    intro value none
    obtain ⟨kept, same⟩ := refusedStill (run ratio us) (noAddress none)
    exact ⟨kept, (applyAllAppend _ us _).trans same⟩
  refine ⟨entered, refused, fun upright address member => ?_, fun value upright none => ?_⟩
  · obtain ⟨shape, value, given, segment⟩ := entered address member
    exact shape.resolve_right (upright value given _ segment)
  · exact refused value fun segment member => ⟨none segment member, upright segment member⟩

structure Started (s : Settings) (answer : String → Control.Outcome) (servers : List String) (a : Agent) : Prop where
  entered : ∃ address ∈ a.pipeline.routing.table, HostPort address.toList ∨ Lopsided address.toList
  upright : (∀ value ∈ s.routers, Upright value) →
    (∀ server ∈ servers, ∀ body, (answer server).Good body →
      ∀ value, ("routers", value) ∈ Property.parse (Text.lossy body) → Upright value) →
    ∃ address ∈ a.pipeline.routing.table, HostPort address.toList

theorem startedSeated {s : Settings} {hour : Int64} {answer : String → Control.Outcome} {servers : List String}
    {a : Agent} (started : Agent.start? s hour answer servers = .ok a) : Started s answer servers a := by
  obtain ⟨table, filled⟩ := startedTable started
  obtain ⟨address, member⟩ := List.exists_mem_of_ne_nil _ filled
  have given := table ▸ member
  have admission := admitted s.sample (startUpdates s answer servers)
  refine ⟨⟨address, member, (admission.entered address given).1⟩, fun seeds bodies => ⟨address, member, ?_⟩⟩
  refine admission.upright (fun value listed => ?_) address given
  rcases List.mem_append.mp listed with seed | heard
  · obtain ⟨text, routers, same⟩ := Option.map_eq_some_iff.mp (Option.mem_toList.mp seed)
    cases same
    exact seeds value routers
  · obtain ⟨x, asked, body, good, property⟩ := Control.heardRouters heard
    obtain ⟨server, member, rfl⟩ := List.mem_map.mp asked
    exact bodies server member body good value property

theorem onlyLopsidedSlip (ratio : Float) (us : List Update) (s : Settings) (hour : Int64)
    (answer : String → Control.Outcome) (servers : List String) :
    Admission ratio us ∧ ∀ a, Agent.start? s hour answer servers = .ok a → Started s answer servers a :=
  ⟨admitted ratio us, fun _ => startedSeated⟩

theorem lopsidedEnds {cs : List Char} (shape : Lopsided cs) : cs.head? = some ':' ∨ cs.getLast? = some ':' := by
  cases shape with
  | noHost => exact .inl rfl
  | noPort => exact .inr List.getLast?_concat

/-- Settings with one list of addresses and one control server. -/
def listed (value : String) : Settings := { domain := "d", servers := ["127.0.0.1:1"], routers := some value }

theorem listedStarts {value : String} (filled : addresses value ≠ []) : ∃ a : Agent,
    Agent.start? (listed value) 0 (fun _ => none) (listed value).servers = .ok a ∧
      a.pipeline.routing.table = addresses value := by
  have table : (Agent.startRouting (listed value) (fun _ => none) (listed value).servers).table = addresses value :=
    (applyTable { sample := 1.0 } (.routers value)).trans (by rw [Update.list?, if_neg filled]; rfl)
  exact ⟨_, if_neg (table ▸ filled), table⟩

theorem uprightListSeated :
    (∀ address ∈ (run 1.0 [.routers "bad;a:1"]).table, HostPort address.toList) ∧
    let s := listed "bad;a:1"
    ∃ a, Agent.start? s 0 (fun _ => none) s.servers = .ok a ∧
      ∃ address ∈ a.pipeline.routing.table, HostPort address.toList := by
  have upright : Upright "bad;a:1" := by
    intro segment member lopsided
    have ends : ∀ cs ∈ segments "bad;a:1", ¬ (cs.head? = some ':' ∨ cs.getLast? = some ':') := by decide
    exact ends segment member (lopsidedEnds lopsided)
  obtain ⟨a, started, -⟩ := @listedStarts "bad;a:1" (by decide)
  obtain ⟨admission, seated⟩ := onlyLopsidedSlip 1.0 [.routers "bad;a:1"] (listed "bad;a:1") 0 (fun _ => none)
    (listed "bad;a:1").servers
  refine ⟨admission.upright ?_, a, started, (seated a started).upright ?_ ?_⟩
  · intro value member
    cases List.mem_singleton.mp member
    exact upright
  · rintro value ⟨⟩
    exact upright
  · rintro server - body ⟨⟩

theorem loneColonShape : ¬ HostPort [':'] := by
  intro shape
  generalize same : [':'] = cs at shape
  cases shape with
  | @split host port named numbered first second =>
    cases host with
    | nil => exact named (List.forall_mem_nil _)
    | cons c host => cases host <;> cases same

theorem loneColonAdmitted :
    (¬ ∀ ratio us, ∀ address ∈ (run ratio us).table, HostPort address.toList) ∧
    (¬ ∀ ratio us value, (∀ segment ∈ segments value, ¬ HostPort segment) →
      (run ratio (us ++ [.routers value])).table = (run ratio us).table) ∧
    ¬ ∀ s hour answer servers a, Agent.start? s hour answer servers = .ok a →
      ∃ address ∈ a.pipeline.routing.table, HostPort address.toList := by
  have colon : addresses ":" = [":"] := by decide
  have before : (run 1.0 [.routers "a:1"]).table = ["a:1"] := by
    rw [run, applyAllTable]
    decide
  have replaced : (run 1.0 [.routers "a:1", .routers ":"]).table = [":"] := by
    rw [run, applyAllTable]
    decide
  refine ⟨fun shaped => ?_, fun kept => ?_, fun seated => ?_⟩
  · exact loneColonShape (shaped 1.0 [.routers "a:1", .routers ":"] ":" (by rw [replaced]; exact List.mem_cons_self))
  · have same := kept 1.0 [.routers "a:1"] ":" fun segment member => by
      rw [List.mem_singleton.mp member]
      exact loneColonShape
    exact absurd (replaced.symm.trans (same.trans before)) (by decide)
  · obtain ⟨a, started, table⟩ := @listedStarts ":" (by decide)
    obtain ⟨address, member, shape⟩ := seated _ _ _ _ a started
    rw [table, colon] at member
    rw [List.mem_singleton.mp member] at shape
    exact loneColonShape shape

end Routing

end TraceRelay
