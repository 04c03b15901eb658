import Mathlib.Data.List.Forall2
import Mathlib.Data.List.Infix
import TraceRelay.Proofs.Routing.Entities
/-! Documents of properties as they may be written: attributes in any order, quote and spacing, values with entities for
what would end them, other elements and any text between. Reading gives the pairs back, in order and no others. -/
namespace TraceRelay.Routing.Property
open Text (matchesOf)

def Spaces (cs : List Char) : Prop := ∀ c ∈ cs, isSpace c = true

instance (cs : List Char) : Decidable (Spaces cs) := decidable_of_iff (cs.all isSpace = true) List.all_eq_true

def Named (name : List Char) : Prop := ∃ c rest, name = c :: rest ∧ startsName c = true ∧ ∀ d ∈ rest, inName d = true

/-- A value and what stands for it between quotes: any character by itself or by its entity, but for three that only
stand by their entities. -/
inductive Spelled (quote : Char) : List Char → List Char → Prop
  | none : Spelled quote [] []
  | plain {c value raw} (free : c ∉ ['&', '>', quote]) (others : Spelled quote value raw) :
      Spelled quote (c :: value) (c :: raw)
  | entity {word c value raw} (known : (word, c) ∈ entities) (others : Spelled quote value raw) :
      Spelled quote (c :: value) (word ++ raw)

/-- An attribute from its name on. -/
inductive Assigned : String × String → List Char → Prop
  | quoted {name value : String} {left right quote raw} (named : Named name.toList) (before : Spaces left)
      (after : Spaces right) (mark : quote = '"' ∨ quote = '\'') (spelled : Spelled quote value.toList raw) :
      Assigned (name, value) (name.toList ++ (left ++ '=' :: (right ++ quote :: (raw ++ [quote]))))

inductive Inside : List (String × String) → List Char → Prop
  | closing {spaces slash} (gap : Spaces spaces) (closed : slash = [] ∨ slash = ['/']) : Inside [] (spaces ++ slash)
  | spaced {a as spaces text rest} (apart : spaces ≠ []) (gap : Spaces spaces) (assigned : Assigned a text)
      (others : Inside as rest) : Inside (a :: as) (spaces ++ (text ++ rest))

/-- One id and one value, among attributes of other names. -/
structure Tells (as : List (String × String)) (p : String × String) : Prop where
  id : as.filter (·.1 = "id") = [("id", p.1)]
  value : as.filter (·.1 = "value") = [("value", p.2)]

def Lacks (as : List (String × String)) : Prop := (∀ a ∈ as, a.1 ≠ "id") ∨ ∀ a ∈ as, a.1 ≠ "value"

def Quiet (text : List Char) : Prop :=
  ∀ before c after, text = before ++ (opening ++ c :: after) → c ≠ '>' ∧ isSpace c = false

theorem quietTails {text : List Char} : Quiet text ↔ ∀ tail ∈ text.tails, opening <+: tail →
    (tail.drop opening.length).head? ∉ ['>', ' ', '\t', '\r', '\n'].map some := by
  have stops : ∀ c, some c ∉ ['>', ' ', '\t', '\r', '\n'].map some ↔ c ≠ '>' ∧ isSpace c = false := by
    intro c
    simp [isSpace, and_assoc]
  constructor
  · rintro quiet tail member ⟨rest, rfl⟩
    obtain ⟨before, whole⟩ := (List.mem_tails ..).mp member
    rw [List.drop_left]
    cases rest with
    | nil => decide
    | cons c rest => exact (stops c).mpr (quiet before c rest whole.symm)
  · rintro tails before c after rfl
    have stop := tails _ ((List.mem_tails ..).mpr (List.suffix_append _ _)) (List.prefix_append _ _)
    rw [List.drop_left] at stop
    exact (stops c).mp stop

instance : DecidablePred Quiet := fun _ => decidable_of_iff _ quietTails.symm

inductive Document : List (String × String) → List Char → Prop
  | text {cs} (quiet : Quiet cs) : Document [] cs
  | property {before as inside p ps rest} (quiet : Quiet before) (element : Inside as inside) (tells : Tells as p)
      (others : Document ps rest) : Document (p :: ps) (before ++ (opening ++ (inside ++ '>' :: rest)))
  | other {before as inside ps rest} (quiet : Quiet before) (element : Inside as inside) (lacks : Lacks as)
      (others : Document ps rest) : Document ps (before ++ (opening ++ (inside ++ '>' :: rest)))

/-! Characters -/

theorem takeStopped {p : Char → Bool} {xs ys : List Char} (all : ∀ x ∈ xs, p x = true)
    (stop : ∀ y, ys.head? = some y → p y = false) : (xs ++ ys).takeWhile p = xs := by
  rw [List.takeWhile_append_of_pos all]
  cases ys with
  | nil => exact List.append_nil xs
  | cons y ys => rw [List.takeWhile_cons_of_neg (Bool.eq_false_iff.mp (stop y rfl)), List.append_nil]

theorem takeBefore {mark : Char} {cs : List Char} (free : mark ∉ cs) (rest : List Char) :
    (cs ++ mark :: rest).takeWhile (· ≠ mark) = cs := by
  refine takeStopped (fun x member => ?_) (fun y found => ?_)
  · rw [decide_eq_true_eq]
    rintro rfl
    exact free member
  · cases found
    rw [decide_eq_false_iff_not, not_not]

theorem spaceKinds {c : Char} (space : isSpace c = true) : c = ' ' ∨ c = '\t' ∨ c = '\r' ∨ c = '\n' := by
  simpa only [isSpace, Bool.or_eq_true, beq_iff_eq, or_assoc] using space

theorem spaceOutside {c : Char} (space : isSpace c = true) : inName c = false ∧ startsName c = false ∧ c ≠ '>' := by
  rcases spaceKinds space with rfl | rfl | rfl | rfl <;> decide

theorem startInName {c : Char} (start : startsName c = true) : inName c = true := by
  rw [startsName, Bool.or_eq_true] at start
  rcases start with letter | low
  · simp only [inName, Char.isAlphanum, letter, Bool.true_or]
  · rw [beq_iff_eq.mp low]
    decide

theorem nameOutside {c : Char} (letter : inName c = true) : c ≠ '>' := by
  rintro rfl
  exact absurd letter (by decide)

/-! Values -/

theorem entityFilled : ∀ e ∈ entities, e.1 ≠ [] := by decide

theorem entityQuiet : ∀ e ∈ entities, '>' ∉ e.1 ∧ '"' ∉ e.1 ∧ '\'' ∉ e.1 := by decide

theorem spelledFree {quote : Char} (mark : quote = '"' ∨ quote = '\'') {value raw : List Char}
    (spelled : Spelled quote value raw) : quote ∉ raw ∧ '>' ∉ raw := by
  induction spelled with
  | none => exact ⟨List.not_mem_nil, List.not_mem_nil⟩
  | plain free others ih =>
    simp only [List.mem_cons, List.not_mem_nil, or_false, not_or] at free
    exact ⟨List.not_mem_cons_of_ne_of_not_mem (Ne.symm free.2.2) ih.1,
      List.not_mem_cons_of_ne_of_not_mem (Ne.symm free.2.1) ih.2⟩
  | entity known others ih =>
    obtain ⟨ends, double, single⟩ := entityQuiet _ known
    rw [List.mem_append, List.mem_append, not_or, not_or]
    refine ⟨⟨?_, ih.1⟩, ends, ih.2⟩
    rcases mark with rfl | rfl
    · exact double
    · exact single

theorem spelledResolved {quote : Char} {value raw out : List Char} (spelled : Spelled quote value raw)
    (resolved : Resolved entities raw out) : out = value := by
  induction spelled generalizing out with
  | none =>
    generalize same : [] = cs at resolved
    cases resolved with
    | done => rfl
    | entity member => exact absurd (List.append_eq_nil_iff.mp same.symm).1 (entityFilled _ member)
    | plain => cases same
  | plain free others ih =>
    have letter : _ ≠ '&' := fun same => free (same ▸ List.mem_cons_self)
    obtain ⟨rest, rfl, left⟩ := resolvedOther (entityElsewhere (List.Subset.refl _) letter) resolved
    rw [ih left]
  | entity known others ih =>
    obtain ⟨rest, rfl, left⟩ := resolvedEntity (List.Subset.refl _) known resolved
    rw [ih left]

theorem spelledBack {quote : Char} {value raw : List Char} (spelled : Spelled quote value raw) : unescape raw = value :=
  spelledResolved spelled (unescapeResolved raw)

/-! Attributes -/

theorem quotedRead {quote : Char} (mark : quote = '"' ∨ quote = '\'') {raw : List Char} (free : quote ∉ raw)
    (rest : List Char) : quoted? (quote :: (raw ++ quote :: rest)) = some (raw, raw.length + 2) := by
  have shorter : raw.length < (raw ++ quote :: rest).length := by
    rw [List.length_append, List.length_cons]
    omega
  simp only [quoted?, if_pos mark, takeBefore free, if_pos shorter]

theorem attributeParts {name left right body : List Char} (named : Named name) (before : Spaces left)
    (after : Spaces right) (stop : ∀ c, body.head? = some c → isSpace c = false) :
    attributeHere? (name ++ (left ++ '=' :: (right ++ body))) = (quoted? body).map fun (raw, n) =>
      (⟨name, raw⟩, name.length + left.length + 1 + right.length + n) := by
  obtain ⟨c, letters, same, start, more⟩ := named
  have nameTaken : (name ++ (left ++ '=' :: (right ++ body))).takeWhile inName = name := by
    refine takeStopped (fun x member => ?_) (fun y found => ?_)
    · rw [same] at member
      rcases List.mem_cons.mp member with rfl | letter
      · exact startInName start
      · exact more x letter
    · cases left with
      | nil =>
        cases found
        decide
      | cons s left =>
        cases found
        exact (spaceOutside (before _ List.mem_cons_self)).1
  have gapTaken : (left ++ '=' :: (right ++ body)).takeWhile isSpace = left :=
    takeStopped before fun y found => by cases found; decide
  have spaceTaken : (right ++ body).takeWhile isSpace = right := takeStopped after stop
  have rest : (name ++ (left ++ '=' :: (right ++ body))).drop (name.length + left.length) = '=' :: (right ++ body) := by
    rw [← List.drop_drop, List.drop_left, List.drop_left]
  unfold attributeHere?
  simp only [nameTaken, List.drop_left, gapTaken, rest, spaceTaken]
  rw [same, List.cons_append]
  exact if_pos start

/-- An attribute as written and as found. -/
structure Found (a : String × String) (f : Attribute) : Prop where
  name : f.name = a.1.toList
  value : unescape f.raw = a.2.toList

theorem attributeRead {a : String × String} {text : List Char} (assigned : Assigned a text) (rest : List Char) :
    ∃ f, Found a f ∧ attributeHere? (text ++ rest) = some (f, text.length) := by
  obtain @⟨name, value, left, right, quote, raw, named, before, after, mark, spelled⟩ := assigned
  have free := (spelledFree mark spelled).1
  have stop : ∀ c, (quote :: (raw ++ quote :: rest)).head? = some c → isSpace c = false := by
    rintro c ⟨⟩
    rcases mark with rfl | rfl <;> decide
  have text : name.toList ++ (left ++ '=' :: (right ++ quote :: (raw ++ [quote]))) ++ rest =
      name.toList ++ (left ++ '=' :: (right ++ quote :: (raw ++ quote :: rest))) := by
    simp only [List.append_assoc, List.cons_append, List.nil_append]
  refine ⟨⟨name.toList, raw⟩, ⟨rfl, spelledBack spelled⟩, ?_⟩
  rw [text, attributeParts named before after stop, quotedRead mark free, Option.map_some]
  simp only [List.length_append, List.length_cons, List.length_nil]
  congr 2
  omega

theorem insideRead {as : List (String × String)} {inside : List Char} (element : Inside as inside) :
    List.Forall₂ Found as (attributes inside) := by
  induction element with
  | @closing spaces slash gap closed =>
    have never : ∀ c ∈ spaces ++ slash, ∀ cs, attributeHere? (c :: cs) = none := by
      intro c member cs
      refine if_neg (Bool.eq_false_iff.mp ?_)
      rcases List.mem_append.mp member with space | mark
      · exact (spaceOutside (gap c space)).2.1
      · rcases closed with rfl | rfl
        · cases mark
        · rw [List.mem_singleton.mp mark]
          decide
    have nothing : matchesOf attributeHere? (spaces ++ slash ++ []) = [] := Text.matchesOver never
    rw [List.append_nil] at nothing
    rw [attributes, nothing]
    exact .nil
  | @spaced a as spaces text rest apart gap assigned others ih =>
    obtain ⟨f, found, here⟩ := attributeRead assigned rest
    have filled : text ≠ [] := by
      obtain ⟨⟨c, letters, same, -⟩⟩ := assigned
      rw [same]
      exact List.cons_ne_nil _ _
    have passed : matchesOf attributeHere? (spaces ++ (text ++ rest)) = matchesOf attributeHere? (text ++ rest) :=
      Text.matchesOver fun c member cs => if_neg (Bool.eq_false_iff.mp (spaceOutside (gap c member)).2.1)
    rw [attributes, passed, Text.matchesTaken filled here]
    exact .cons found ih

theorem insideOpen {as : List (String × String)} {inside : List Char} (element : Inside as inside) : '>' ∉ inside := by
  induction element with
  | closing gap closed =>
    rw [List.mem_append, not_or]
    refine ⟨fun member => (spaceOutside (gap _ member)).2.2 rfl, ?_⟩
    rcases closed with rfl | rfl <;> decide
  | spaced apart gap assigned others ih =>
    obtain @⟨name, value, left, right, quote, raw, named, before, after, mark, spelled⟩ := assigned
    obtain ⟨c, letters, same, start, more⟩ := named
    have name : '>' ∉ name.toList := by
      rw [same]
      intro member
      rcases List.mem_cons.mp member with rfl | letter
      · exact nameOutside (startInName start) rfl
      · exact nameOutside (more _ letter) rfl
    have marks : '>' ≠ quote := by rcases mark with rfl | rfl <;> decide
    have outside : ∀ {cs}, Spaces cs → '>' ∉ cs := fun spaces member => (spaceOutside (spaces _ member)).2.2 rfl
    simp only [List.mem_append, List.mem_cons, List.not_mem_nil, or_false, not_or]
    exact ⟨outside gap, ⟨name, outside before, by decide, outside after, marks, (spelledFree mark spelled).2, marks⟩, ih⟩

/-! Pairs -/

theorem lastFiltered (name : List Char) (fs : List Attribute) :
    lastNamed? name fs = (fs.filter (·.name = name)).getLast?.map (·.raw) := by
  rw [lastNamed?, ← List.head?_filter, List.filter_reverse, List.head?_reverse]

theorem foundFiltered {as : List (String × String)} {fs : List Attribute} (found : List.Forall₂ Found as fs)
    (name : String) : List.Forall₂ Found (as.filter (·.1 = name)) (fs.filter (·.name = name.toList)) := by
  refine List.rel_filter (fun a f same => ?_) found
  dsimp only
  rw [decide_eq_true_eq, decide_eq_true_eq, same.name, String.toList_inj]

theorem tellsRead {as : List (String × String)} {inside : List Char} {p : String × String} (element : Inside as inside)
    (tells : Tells as p) : ofElement? inside = some p := by
  have read : ∀ {name value : String}, as.filter (·.1 = name) = [(name, value)] →
      ∃ raw, lastNamed? name.toList (attributes inside) = some raw ∧ unescape raw = value.toList := by
    intro name value only
    have one := foundFiltered (insideRead element) name
    rw [only] at one
    rw [lastFiltered]
    generalize (attributes inside).filter (·.name = name.toList) = fs at one ⊢
    obtain _ | ⟨found, _ | _⟩ := one
    exact ⟨_, rfl, found.value⟩
  obtain ⟨id, idRead, idValue⟩ := read tells.id
  obtain ⟨value, valueRead, valueValue⟩ := read tells.value
  simp only [ofElement?, idRead, valueRead, bind, Option.bind, pure, idValue, valueValue, String.ofList_toList]

theorem lacksRead {as : List (String × String)} {inside : List Char} (element : Inside as inside) (lacks : Lacks as) :
    ofElement? inside = none := by
  have read : ∀ {name : String}, (∀ a ∈ as, a.1 ≠ name) → lastNamed? name.toList (attributes inside) = none := by
    intro name absent
    have none := foundFiltered (insideRead element) name
    rw [List.filter_eq_nil_iff.mpr fun a member => by simpa using absent a member] at none
    rw [lastFiltered]
    generalize (attributes inside).filter (·.name = name.toList) = fs at none ⊢
    cases none
    rfl
  rcases lacks with noId | noValue
  · simp only [ofElement?, read noId, bind, Option.bind]
  · simp only [ofElement?, read noValue, bind, Option.bind]
    split <;> rfl

/-! Elements -/

theorem openingStart : ∃ letters, opening = '<' :: letters ∧ '<' ∉ letters := ⟨"property".toList, rfl, by decide⟩

/-- Here no element starts: what follows its opening is the end, or a character that neither parts nor closes. -/
theorem elementNone {cs : List Char} (stops : ∀ rest, cs = opening ++ rest →
    ∀ c, rest.head? = some c → c ≠ '>' ∧ isSpace c = false) : elementHere? cs = none := by
  unfold elementHere?
  split
  · rename_i front
    obtain ⟨rest, rfl⟩ := List.isPrefixOf_iff_prefix.mp front
    rw [List.drop_left]
    cases rest with
    | nil => rfl
    | cons c rest =>
      obtain ⟨ends, space⟩ := stops _ rfl c rfl
      have taken : (c :: rest).takeWhile (· ≠ '>') = c :: rest.takeWhile (· ≠ '>') := by
        rw [List.takeWhile_cons, decide_eq_true ends, if_pos rfl]
      simp only [taken, space, Bool.false_and, Bool.false_eq_true, if_false]
  · rfl

theorem elementElsewhere {c : Char} (other : c ≠ '<') (cs : List Char) : elementHere? (c :: cs) = none := by
  refine elementNone fun rest same => ?_
  obtain ⟨letters, start, -⟩ := openingStart
  rw [start] at same
  exact absurd (List.cons.inj same).1 other

theorem elementRead {inside : List Char} (free : '>' ∉ inside) (parted : ∀ c, inside.head? = some c → isSpace c = true)
    (rest : List Char) : elementHere? (opening ++ (inside ++ '>' :: rest)) =
      some (inside, (opening ++ (inside ++ ['>'])).length) := by
  have shorter : inside.length < (inside ++ '>' :: rest).length := by
    rw [List.length_append, List.length_cons]
    omega
  have front : opening.isPrefixOf (opening ++ (inside ++ '>' :: rest)) = true :=
    List.isPrefixOf_iff_prefix.mpr (List.prefix_append _ _)
  simp only [elementHere?, if_pos front, List.drop_left, takeBefore free, shorter, decide_true, Bool.and_true]
  rw [List.length_append, List.length_append, List.length_singleton, ← Nat.add_assoc]
  cases inside with
  | nil => rfl
  | cons c inside => exact if_pos (parted c rfl)

theorem insideParted {as : List (String × String)} {inside : List Char} (element : Inside as inside) :
    (∀ c, inside.head? = some c → isSpace c = true) ∨ (as = [] ∧ inside = ['/']) := by
  have first : ∀ {spaces rest}, spaces ≠ [] → Spaces spaces →
      ∀ c, (spaces ++ rest).head? = some c → isSpace c = true := by
    intro spaces rest filled gap c found
    cases spaces with
    | nil => exact absurd rfl filled
    | cons s spaces =>
      cases found
      exact gap _ List.mem_cons_self
  cases element with
  | @closing spaces slash gap closed =>
    by_cases filled : spaces = []
    · subst filled
      rcases closed with rfl | rfl
      · exact .inl nofun
      · exact .inr ⟨rfl, rfl⟩
    · exact .inl (first filled gap)
  | spaced apart gap => exact .inl (first apart gap)

/-! Documents -/

theorem quietOver {before rest : List Char} (quiet : Quiet before) (next : ∀ c, rest.head? = some c → c = '<') :
    matchesOf elementHere? (before ++ rest) = matchesOf elementHere? rest := by
  obtain ⟨letters, start, single⟩ := openingStart
  have stops : ∀ {c}, c = '<' → c ≠ '>' ∧ isSpace c = false := by
    rintro _ rfl
    decide
  induction before with
  | nil => rfl
  | cons b before ih =>
    have tail : Quiet before := fun front c after same => quiet (b :: front) c after (by rw [same]; rfl)
    rw [List.cons_append, Text.matchesSkipped, ih tail]
    refine elementNone fun after same c found => ?_
    rw [← List.cons_append] at same
    rcases List.append_eq_append_iff.mp same with ⟨more, within, outside⟩ | ⟨more, within, outside⟩
    · cases more with
      | nil =>
        rw [List.nil_append] at outside
        exact stops (next c (outside ▸ found))
      | cons m more =>
        -- The opening would go on into what follows, which starts with the sign that it has only once.
        rw [next m (outside ▸ rfl), start] at within
        exact absurd ((List.cons.inj within).2 ▸ List.mem_append_right _ List.mem_cons_self) single
    · cases more with
      | nil =>
        rw [List.nil_append] at outside
        exact stops (next c (outside ▸ found))
      | cons m more =>
        rw [outside] at found
        cases found
        exact quiet [] c more within

/-- Closed at once, an element holds nothing, and is none here: its opening is not parted from its end. -/
theorem bareOver (rest : List Char) :
    matchesOf elementHere? (opening ++ (['/'] ++ '>' :: rest)) = matchesOf elementHere? rest := by
  obtain ⟨letters, start, single⟩ := openingStart
  have none : elementHere? (opening ++ (['/'] ++ '>' :: rest)) = none := by
    refine elementNone fun after same c found => ?_
    rw [← List.append_cancel_left same] at found
    cases found
    decide
  have text : opening ++ (['/'] ++ '>' :: rest) = '<' :: ((letters ++ ['/', '>']) ++ rest) := by
    rw [start, List.append_assoc]
    rfl
  rw [text] at none ⊢
  rw [Text.matchesSkipped none]
  refine Text.matchesOver fun c member cs => elementElsewhere ?_ cs
  rintro rfl
  rcases List.mem_append.mp member with letter | closes
  · exact single letter
  · exact absurd closes (by decide)

theorem elementOver {as : List (String × String)} {inside : List Char} (element : Inside as inside) (rest : List Char) :
    (matchesOf elementHere? (opening ++ (inside ++ '>' :: rest))).filterMap ofElement? =
      (ofElement? inside).toList ++ (matchesOf elementHere? rest).filterMap ofElement? := by
  rcases insideParted element with parted | ⟨rfl, rfl⟩
  · have here := elementRead (insideOpen element) parted rest
    have text : opening ++ (inside ++ '>' :: rest) = opening ++ (inside ++ ['>']) ++ rest := by
      rw [List.append_assoc, List.append_assoc, List.singleton_append]
    have filled : opening ++ (inside ++ ['>']) ≠ [] := by
      obtain ⟨letters, start, -⟩ := openingStart
      rw [start]
      exact List.cons_ne_nil _ _
    rw [text] at here ⊢
    rw [Text.matchesTaken filled here, List.filterMap_cons]
    cases ofElement? inside <;> rfl
  · rw [bareOver, lacksRead element (.inl (List.forall_mem_nil _))]
    rfl

theorem documentRead {pairs : List (String × String)} {cs : List Char} (document : Document pairs cs) :
    (matchesOf elementHere? cs).filterMap ofElement? = pairs := by
  have next : ∀ {inside rest : List Char} c, (opening ++ (inside ++ '>' :: rest)).head? = some c → c = '<' := by
    rintro inside rest c ⟨⟩
    rfl
  induction document with
  | @text cs quiet =>
    have nothing := @quietOver cs [] quiet nofun
    rw [List.append_nil] at nothing
    rw [nothing]
    rfl
  | property quiet element tells others ih =>
    rw [quietOver quiet next, elementOver element, tellsRead element tells, ih]
    rfl
  | other quiet element lacks others ih =>
    rw [quietOver quiet next, elementOver element, lacksRead element lacks, ih]
    rfl

theorem spelledSome (value : List Char) : ∃ raw, Spelled '"' value raw := by
  induction value with
  | nil => exact ⟨[], .none⟩
  | cons c value ih =>
    obtain ⟨raw, others⟩ := ih
    by_cases free : c ∈ ['&', '>', '"']
    · have known : ∃ word, (word, c) ∈ entities := by
        simp only [List.mem_cons, List.not_mem_nil, or_false] at free
        rcases free with rfl | rfl | rfl
        · exact ⟨ampersand, by decide⟩
        · exact ⟨greaterThan, by decide⟩
        · exact ⟨doubleQuote, by decide⟩
      obtain ⟨word, member⟩ := known
      exact ⟨word ++ raw, .entity member others⟩
    · exact ⟨c :: raw, .plain free others⟩

theorem spelledPlain {quote : Char} {letters : List Char}
    (free : letters.all (fun c => decide (c ∉ ['&', '>', quote])) = true) : Spelled quote letters letters := by
  induction letters with
  | nil => exact .none
  | cons c letters ih =>
    rw [List.all_cons, Bool.and_eq_true, decide_eq_true_eq] at free
    exact .plain free.1 (ih free.2)

theorem assignedSome {name : String} (named : Named name.toList) (value : String) : ∃ text, Assigned (name, value) text := by
  obtain ⟨raw, spelled⟩ := spelledSome value.toList
  exact ⟨_, .quoted named (List.forall_mem_nil _) (List.forall_mem_nil _) (.inl rfl) spelled⟩

theorem idNamed : Named "id".toList := ⟨'i', ['d'], rfl, by decide, List.all_eq_true.mp rfl⟩

theorem valueNamed : Named "value".toList := ⟨'v', "alue".toList, rfl, by decide, List.all_eq_true.mp rfl⟩

theorem documentSome (pairs : List (String × String)) : ∃ cs, Document pairs cs := by
  have gap : Spaces [' '] := by decide
  induction pairs with
  | nil => exact ⟨[], .text (by decide)⟩
  | cons p pairs ih =>
    obtain ⟨cs, others⟩ := ih
    obtain ⟨id, idText⟩ := assignedSome idNamed p.1
    obtain ⟨value, valueText⟩ := assignedSome valueNamed p.2
    have element := Inside.spaced (List.cons_ne_nil _ _) gap idText
      (.spaced (List.cons_ne_nil _ _) gap valueText (.closing (List.forall_mem_nil _) (.inr rfl)))
    have quiet : Quiet [] := by decide
    exact ⟨_, .property quiet element ⟨rfl, rfl⟩ others⟩

/-- Every list of pairs has its documents, and each of them, however it is written, reads back as the list. -/
theorem documentsReadBack (pairs : List (String × String)) :
    (∃ document : String, Document pairs document.toList) ∧
      ∀ document : String, Document pairs document.toList → parse document = pairs := by
  constructor
  · obtain ⟨cs, document⟩ := documentSome pairs
    exact ⟨String.ofList cs, by rwa [String.toList_ofList]⟩
  · intro document written
    exact documentRead written

theorem attributesInValuesReadBack :
    parse "<property-list> <property\n value =\"&amp;lt;\"\tid= 'value=\"1\"'/> <property id='x'>" =
      [("value=\"1\"", "&lt;")] := by
  refine (documentsReadBack _).2 _ ?_
  have value : Assigned ("value", "&lt;") "value =\"&amp;lt;\"".toList :=
    @Assigned.quoted "value" "&lt;" [' '] [] '"' _ valueNamed (by decide) (by decide) (.inl rfl)
      (@Spelled.entity _ ampersand '&' _ _ (by decide) (spelledPlain (by decide)))
  have id : Assigned ("id", "value=\"1\"") "id= 'value=\"1\"'".toList :=
    @Assigned.quoted "id" "value=\"1\"" [] [' '] '\'' _ idNamed (by decide) (by decide) (.inr rfl)
      (spelledPlain (by decide))
  have alone : Assigned ("id", "x") "id='x'".toList :=
    @Assigned.quoted "id" "x" [] [] '\'' _ idNamed (by decide) (by decide) (.inr rfl) (spelledPlain (by decide))
  have both : Inside [("value", "&lt;"), ("id", "value=\"1\"")] "\n value =\"&amp;lt;\"\tid= 'value=\"1\"'/".toList :=
    @Inside.spaced _ _ ['\n', ' '] _ _ (by decide) (by decide) value
      (@Inside.spaced _ _ ['\t'] _ _ (by decide) (by decide) id (@Inside.closing [] ['/'] (by decide) (.inr rfl)))
  have one : Inside [("id", "x")] " id='x'".toList :=
    @Inside.spaced _ _ [' '] _ _ (by decide) (by decide) alone (@Inside.closing [] [] (by decide) (.inl rfl))
  have rest : Document [] ([' '] ++ (opening ++ (" id='x'".toList ++ ['>']))) :=
    .other (by decide) one (.inr (by decide)) (.text (by decide))
  have tells : Tells [("value", "&lt;"), ("id", "value=\"1\"")] ("value=\"1\"", "&lt;") := ⟨rfl, rfl⟩
  have whole := @Document.property "<property-list> ".toList _ _ _ _ _ (by decide) both tells rest
  refine cast (congrArg (Document _) ?_) whole
  decide +kernel

end TraceRelay.Routing.Property
