import Mathlib.Data.List.Forall2
import TraceRelay.Control.Poll
import TraceRelay.Proofs.Routing.Runs
import TraceRelay.Proofs.Text.Utf8
/-! Polls of several control servers. The first good answer ends the poll and is all of it that reaches the routing
state, so that answers of the servers that failed, and the order where all good answers are one, are not seen there. -/
namespace TraceRelay.Control
open Text (Bytes)

/-- A reply with a status of success. -/
inductive Outcome.Good : Outcome → Bytes → Prop
  | reply {status body} (low : 200 ≤ status) (high : status < 300) : Good (some ⟨status, body⟩) body

def Outcome.Failed (o : Outcome) : Prop := ∀ body, ¬ o.Good body

/-- A text that reads as a finite number. -/
def Ratio (value : String) (x : Float) : Prop :=
  Decimal.readFloat? (Text.trimChars value.toList) = some x ∧ x.isFinite = true

def Apart (x y : Float) : Prop := (1e-9 : Float) < (x - y).abs

/-- What one property does. A ratio is stored if it is not the present one, a list of addresses if it has any and
is not the present table, and the agent takes part when it is not blocked. -/
inductive Effect : String × String → Routing → Routing → Prop
  | sampled {value x r} (ratio : Ratio value x) (apart : Apart x r.sample) :
      Effect ("sample", value) r { r with sample := x }
  | sampleKept {value r} (kept : ∀ x, Ratio value x → ¬ Apart x r.sample) : Effect ("sample", value) r r
  | routed {value r} (usable : Routing.addresses value ≠ []) (other : Routing.addresses value ≠ r.table) :
      Effect ("routers", value) r { r with table := Routing.addresses value, version := r.version + 1 }
  | tableKept {value r} (kept : Routing.addresses value = [] ∨ Routing.addresses value = r.table) :
      Effect ("routers", value) r r
  | unblocked {r} : Effect ("block", "false") r { r with enabled := true }
  | blocked {value r} (other : value ≠ "false") : Effect ("block", value) r { r with enabled := false }
  | unknown {id value r} (other : id ∉ ["sample", "routers", "block"]) : Effect (id, value) r r

/-- The properties of a document, one after the other. -/
inductive Applied : List (String × String) → Routing → Routing → Prop
  | none (r : Routing) : Applied [] r r
  | next {p ps q r s} (first : Effect p r q) (others : Applied ps q s) : Applied (p :: ps) r s

/-- What one round over the servers comes to. -/
inductive Round (r : Routing) : List (String × Outcome) → Polled → Prop
  | answered {before server outcome after body s} (failed : ∀ x ∈ before, x.2.Failed) (good : outcome.Good body)
      (applied : Applied (Routing.Property.parse (Text.lossy body)) r s) :
      Round r (before ++ (server, outcome) :: after) ⟨.ok (), before.map (·.1) ++ [server], s⟩
  | silent {servers} (failed : ∀ x ∈ servers, x.2.Failed) :
      Round r servers ⟨.error .allServersFailed, servers.map (·.1), r⟩

theorem documentIff (o : Outcome) (document : String) :
    document? o = some document ↔ ∃ body, o.Good body ∧ Text.lossy body = document := by
  rw [document?, Option.map_eq_some_iff]
  constructor
  · rintro ⟨⟨status, body⟩, found, rfl⟩
    obtain ⟨rfl, range⟩ := Option.filter_eq_some_iff.mp found
    rw [Bool.and_eq_true, decide_eq_true_eq, decide_eq_true_eq] at range
    exact ⟨body, .reply range.1 range.2, rfl⟩
  · rintro ⟨body, good, rfl⟩
    cases good with
    | reply low high =>
      refine ⟨⟨_, body⟩, Option.filter_eq_some_iff.mpr ⟨rfl, ?_⟩, rfl⟩
      rw [Bool.and_eq_true, decide_eq_true_eq, decide_eq_true_eq]
      exact ⟨low, high⟩

theorem documentNone (o : Outcome) : document? o = none ↔ o.Failed := by
  rw [Option.eq_none_iff_forall_ne_some]
  constructor
  · exact fun never body good => never _ ((documentIff o _).mpr ⟨body, good, rfl⟩)
  · intro failed document found
    obtain ⟨body, good, -⟩ := (documentIff o document).mp found
    exact failed body good

/-! One round -/

theorem askCases (servers : List (String × Outcome)) :
    (∃ before server outcome after body, servers = before ++ (server, outcome) :: after ∧
      (∀ x ∈ before, x.2.Failed) ∧ outcome.Good body ∧
      ask servers = (before.map (·.1) ++ [server], some (Text.lossy body))) ∨
    ((∀ x ∈ servers, x.2.Failed) ∧ ask servers = (servers.map (·.1), none)) := by
  induction servers with
  | nil => exact .inr ⟨List.forall_mem_nil _, rfl⟩
  | cons first rest ih =>
    obtain ⟨server, outcome⟩ := first
    rw [ask]
    cases found : document? outcome with
    | some document =>
      obtain ⟨body, good, rfl⟩ := (documentIff outcome document).mp found
      exact .inl ⟨[], server, outcome, rest, body, rfl, List.forall_mem_nil _, good, rfl⟩
    | none =>
      have lost := (documentNone outcome).mp found
      rcases ih with ⟨before, next, answer, after, body, rfl, failed, good, asked⟩ | ⟨failed, asked⟩
      · rw [asked]
        exact .inl ⟨(server, outcome) :: before, next, answer, after, body, rfl,
          List.forall_mem_cons.mpr ⟨lost, failed⟩, good, rfl⟩
      · rw [asked]
        exact .inr ⟨List.forall_mem_cons.mpr ⟨lost, failed⟩, rfl⟩

theorem ratioIff (value : String) (x : Float) : Routing.ratio? value = some x ↔ Ratio value x :=
  Option.filter_eq_some_iff

theorem differsIff (r : Routing) (x : Float) : r.differs x = true ↔ Apart x r.sample := by
  have billionth : Routing.epsilon = 1e-9 := rfl
  rw [Routing.differs, decide_eq_true_iff, billionth, Apart]

theorem sampleEffect (value : String) (r : Routing) : Effect ("sample", value) r (r.updateSample value) := by
  unfold Routing.updateSample
  cases read : Routing.ratio? value with
  | none =>
    refine .sampleKept fun x ratio => ?_
    rw [← ratioIff, read] at ratio
    cases ratio
  | some x =>
    have ratio := (ratioIff value x).mp read
    dsimp only
    split
    · exact .sampled ratio ((differsIff r x).mp ‹_›)
    · refine .sampleKept fun y other => ?_
      obtain rfl := Option.some.inj (ratio.1.symm.trans other.1)
      rwa [← differsIff]

theorem routersEffect (value : String) (r : Routing) : Effect ("routers", value) r (r.updateRouters value) := by
  rcases Routing.routersCases r value with ⟨same, still⟩ | ⟨changed, moved⟩
  · have kept := mt (Routing.changesIff r value).mpr (by simp [same])
    rw [still]
    exact .tableKept (or_iff_not_and_not.mpr kept)
  · obtain ⟨usable, other⟩ := (Routing.changesIff r value).mp changed
    rw [moved]
    exact .routed usable other

theorem blockEffect (value : String) (r : Routing) : Effect ("block", value) r (r.updateBlock value) := by
  unfold Routing.updateBlock
  by_cases free : value = "false"
  · subst free
    exact .unblocked
  · rw [decide_eq_false free]
    exact .blocked free

theorem updateEffect (p : String × String) (r : Routing) :
    Effect p r ((update? p).toList.foldl Routing.apply r) := by
  obtain ⟨id, value⟩ := p
  rw [update?]
  by_cases sample : id = "sample"
  · subst sample
    exact sampleEffect value r
  · by_cases routers : id = "routers"
    · subst routers
      exact routersEffect value r
    · by_cases block : id = "block"
      · subst block
        exact blockEffect value r
      · rw [if_neg sample, if_neg routers, if_neg block]
        exact .unknown (by simp [sample, routers, block])

theorem updatesApplied (ps : List (String × String)) (r : Routing) :
    Applied ps r (r.applyAll (ps.filterMap update?)) := by
  induction ps generalizing r with
  | nil => exact .none r
  | cons p ps ih =>
    refine .next (updateEffect p r) ?_
    rw [List.filterMap_cons]
    cases update? p with
    | none => exact ih r
    | some u => exact ih (r.apply u)

theorem pollCases (servers : List (String × Outcome)) (r : Routing) :
    (∃ before server outcome after body, servers = before ++ (server, outcome) :: after ∧
      (∀ x ∈ before, x.2.Failed) ∧ outcome.Good body ∧
      pollEach servers r = ⟨.ok (), before.map (·.1) ++ [server], r.applyAll (updates (Text.lossy body))⟩) ∨
    ((∀ x ∈ servers, x.2.Failed) ∧
      pollEach servers r = ⟨.error .allServersFailed, servers.map (·.1), r⟩) := by
  unfold pollEach
  rcases askCases servers with ⟨before, server, outcome, after, body, split, failed, good, asked⟩ | ⟨failed, asked⟩
  · rw [asked]
    exact .inl ⟨before, server, outcome, after, body, split, failed, good, rfl⟩
  · rw [asked]
    exact .inr ⟨failed, rfl⟩

theorem pollRound (servers : List (String × Outcome)) (r : Routing) : Round r servers (pollEach servers r) := by
  rcases pollCases servers r with ⟨before, server, outcome, after, body, rfl, failed, good, polled⟩ | ⟨failed, polled⟩
  · rw [polled]
    exact .answered failed good (updatesApplied _ r)
  · rw [polled]
    exact .silent failed

/-! Several orders -/

/-- One server of two rounds, whose answers differ at most in what comes with a failure. -/
def Alike (x y : String × Outcome) : Prop := x.1 = y.1 ∧ ∀ body, x.2.Good body ↔ y.2.Good body

theorem documentAlike {o p : Outcome} (same : ∀ body, o.Good body ↔ p.Good body) : document? o = document? p := by
  refine Option.ext fun document => ?_
  rw [documentIff, documentIff]
  exact exists_congr fun body => and_congr_left' (same body)

theorem askAlike {xs ys : List (String × Outcome)} (alike : List.Forall₂ Alike xs ys) : ask xs = ask ys := by
  induction alike with
  | nil => rfl
  | @cons x y xs ys first others ih =>
    obtain ⟨server, outcome⟩ := x
    obtain ⟨twin, other⟩ := y
    obtain ⟨rfl, same⟩ := first
    rw [ask, ask, documentAlike same, ih]

/-- The routing state after a round in which all good answers are one. -/
theorem pollSame {servers : List (String × Outcome)} {body : Bytes}
    (one : ∀ x ∈ servers, ∀ b, x.2.Good b → b = body) (r : Routing) :
    ((pollEach servers r).result = .ok () ∧ (∃ x ∈ servers, ∃ b, x.2.Good b) ∧
      (pollEach servers r).routing = r.applyAll (updates (Text.lossy body))) ∨
    ((pollEach servers r).result = .error .allServersFailed ∧ (∀ x ∈ servers, x.2.Failed) ∧
      (pollEach servers r).routing = r) := by
  rcases pollCases servers r with ⟨before, server, outcome, after, found, rfl, -, good, polled⟩ | ⟨failed, polled⟩
  · have member : (server, outcome) ∈ before ++ (server, outcome) :: after :=
      List.mem_append_right _ List.mem_cons_self
    obtain rfl := one _ member found good
    exact .inl ⟨by rw [polled], ⟨_, member, found, good⟩, by rw [polled]⟩
  · exact .inr ⟨by rw [polled], failed, by rw [polled]⟩

structure Failover (servers : List (String × Outcome)) (r : Routing) : Prop where
  round : ∀ order, order.Perm servers → Round r order (pollEach order r)
  silent : (∀ x ∈ servers, x.2.Failed) → ∀ order, order.Perm servers →
    pollEach order r = ⟨.error .allServersFailed, order.map (·.1), r⟩
  unleaked : ∀ order others, order.Perm servers → List.Forall₂ Alike order others →
    pollEach order r = pollEach others r
  orderless : ∀ body, (∀ x ∈ servers, ∀ b, x.2.Good b → b = body) →
    ∀ order other, order.Perm servers → other.Perm servers →
      (pollEach order r).result = (pollEach other r).result ∧ (pollEach order r).routing = (pollEach other r).routing

theorem firstAnswerWins (servers : List (String × Outcome)) (r : Routing) : Failover servers r := by
  refine ⟨fun order _ => pollRound order r, fun failed order shuffled => ?_, fun order others _ alike => ?_,
    fun body one order other first second => ?_⟩
  · rcases pollCases order r with ⟨before, server, outcome, after, body, rfl, -, good, -⟩ | ⟨-, polled⟩
    · have member := shuffled.mem_iff.mp (List.mem_append_right before List.mem_cons_self)
      exact absurd good (failed _ member _)
    · exact polled
  · rw [pollEach, pollEach, askAlike alike]
  · have here := pollSame (fun x member => one x (first.mem_iff.mp member)) r
    have there := pollSame (fun x member => one x (second.mem_iff.mp member)) r
    rcases here with ⟨ok, ⟨x, member, b, good⟩, state⟩ | ⟨lost, failed, state⟩
    · have found := second.mem_iff.mpr (first.mem_iff.mp member)
      rcases there with ⟨alsoOk, -, alsoState⟩ | ⟨-, failed, -⟩
      · exact ⟨ok.trans alsoOk.symm, state.trans alsoState.symm⟩
      · exact absurd good (failed x found b)
    · rcases there with ⟨-, ⟨x, member, b, good⟩, -⟩ | ⟨alsoLost, -, alsoState⟩
      · exact absurd good (failed x (first.mem_iff.mpr (second.mem_iff.mp member)) b)
      · exact ⟨lost.trans alsoLost.symm, state.trans alsoState.symm⟩

/-- A server that refuses, one that fails with a document, and two that answer with one document. -/
theorem thirdServerAnswers :
    let document := "<property id='sample' value=' .25'/><property id='sample' value='nan'/>" ++
      "<property id='routers' value='h:1;;h:2'/><property id='owner' value='x:9'/><property id='block' value=''/>"
    let body := Text.utf8 document
    let fault := Text.utf8 "<property id='sample' value='0.5'/><property id='routers' value='x:9'/>"
    let servers : List (String × Outcome) :=
      [("a", none), ("b", some ⟨500, fault⟩), ("c", some ⟨200, body⟩), ("d", some ⟨299, body⟩)]
    let r : Routing := { sample := 1.0, table := ["h:1"], version := 4 }
    let s : Routing := { sample := 0.25, enabled := false, table := ["h:1", "h:2"], version := 5 }
    Round r servers ⟨.ok (), ["a", "b", "c"], s⟩ ∧ pollEach servers r = ⟨.ok (), ["a", "b", "c"], s⟩ ∧
      (pollEach servers.reverse r).asked = ["d"] ∧ (pollEach servers.reverse r).routing = s ∧
      pollEach (servers.take 2) r = ⟨.error .allServersFailed, ["a", "b"], r⟩ := by
  intro document body fault servers r s
  have answer : ∀ status, 200 ≤ status → status < 300 → document? (some ⟨status, body⟩) = some document :=
    fun status low high => (documentIff _ _).mpr ⟨body, .reply low high, Text.lossyUtf8 document⟩
  have fails : document? (some ⟨500, fault⟩) = none := rfl
  have asked : ask servers = (["a", "b", "c"], some document) := by
    have lost : document? none = none := rfl
    simp only [servers, ask, lost, fails, answer 200 (by decide) (by decide)]
  have changed : (updates document).foldl Routing.apply r = s := by decide +kernel
  have polled : pollEach servers r = ⟨.ok (), ["a", "b", "c"], s⟩ := by simp only [pollEach, asked, changed]
  have refused : Outcome.Failed none := nofun
  have faulty : Outcome.Failed (some ⟨500, fault⟩) := (documentNone _).mp fails
  have only : ∀ status b, Outcome.Good (some ⟨status, body⟩) b → b = body := fun status b good => by
    cases good
    rfl
  have one : ∀ x ∈ servers, ∀ b, x.2.Good b → b = body := by
    simp only [servers, List.forall_mem_cons, List.not_mem_nil, false_implies, implies_true, and_true]
    exact ⟨fun b good => absurd good (refused b), fun b good => absurd good (faulty b), only 200, only 299⟩
  have failed : ∀ x ∈ servers.take 2, x.2.Failed := by
    simp only [servers, List.take_succ_cons, List.take_zero, List.forall_mem_cons, List.not_mem_nil, false_implies,
      implies_true, and_true]
    exact ⟨refused, faulty⟩
  have askedBack : ask servers.reverse = (["d"], some document) := by
    simp only [servers, List.reverse_cons, List.reverse_nil, List.nil_append, List.cons_append, ask,
      answer 299 (by decide) (by decide)]
  obtain ⟨-, turned⟩ := (firstAnswerWins servers r).orderless body one servers servers.reverse (.refl _)
    (List.reverse_perm _)
  refine ⟨polled ▸ (firstAnswerWins servers r).round servers (.refl _), polled, by rw [pollEach, askedBack], ?_,
    (firstAnswerWins _ r).silent failed _ (.refl _)⟩
  rw [← turned, polled]

end TraceRelay.Control
