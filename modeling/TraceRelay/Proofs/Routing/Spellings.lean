import Mathlib.Data.List.TakeWhile
import TraceRelay.Proofs.Routing.Runs
/-! Texts that spell the same list of addresses. They differ in separators, in blanks around a segment and in
segments that are no address, and in nothing else: every text comes down to its addresses joined. -/
namespace TraceRelay

namespace Text

theorem splitOnAppend {α : Type} [DecidableEq α] (sep : α) (xs ys : List α) :
    splitOn sep (xs ++ sep :: ys) = splitOn sep xs ++ splitOn sep ys := by
  induction xs with
  | nil => rw [List.nil_append, splitOnCons, if_pos rfl, splitOnNil, List.singleton_append]
  | cons x xs ih =>
    rw [List.cons_append, splitOnCons, splitOnCons, ih]
    split
    · rfl
    · cases cut : splitOn sep xs with
      | nil => exact absurd cut (splitOnNonempty xs)
      | cons p ps => rfl

/-- Blank characters and nothing else. -/
def Blank (cs : List Char) : Prop := ∀ c ∈ cs, isBlank c = true

theorem blankAbsent {cs : List Char} (blank : Blank cs) {c : Char} (visible : isBlank c = false) : c ∉ cs :=
  fun member => Bool.false_ne_true (visible.symm.trans (blank c member))

theorem dropBlank {left : List Char} (blank : Blank left) (cs : List Char) :
    (left ++ cs).dropWhile isBlank = cs.dropWhile isBlank := by
  rw [List.dropWhile_append, List.dropWhile_eq_nil_iff.mpr blank]
  rfl

theorem trimFront {left : List Char} (blank : Blank left) (cs : List Char) :
    trimChars (left ++ cs) = trimChars cs := by
  rw [trimChars, dropBlank blank, trimChars]

theorem trimBack (cs : List Char) {right : List Char} (blank : Blank right) :
    trimChars (cs ++ right) = trimChars cs := by
  have back : Blank right.reverse := fun c member => blank c (List.mem_reverse.mp member)
  rw [trimChars, trimChars, List.dropWhile_append]
  split
  · rename_i nothing
    rw [List.isEmpty_iff.mp nothing, List.dropWhile_eq_nil_iff.mpr blank]
  · rw [List.reverse_append, dropBlank back]

theorem trimSplit (cs : List Char) :
    ∃ left right, cs = left ++ trimChars cs ++ right ∧ Blank left ∧ Blank right := by
  refine ⟨cs.takeWhile isBlank, ((cs.dropWhile isBlank).reverse.takeWhile isBlank).reverse, ?_, ?_, ?_⟩
  · rw [trimChars, List.append_assoc, ← List.reverse_append, List.takeWhile_append_dropWhile,
      List.reverse_reverse, List.takeWhile_append_dropWhile]
  · exact fun c member => List.mem_takeWhile_imp member
  · exact fun c member => List.mem_takeWhile_imp (List.mem_reverse.mp member)

theorem trimCount (cs : List Char) {c : Char} (visible : isBlank c = false) :
    (trimChars cs).count c = cs.count c := by
  obtain ⟨left, right, whole, before, after⟩ := trimSplit cs
  calc
    (trimChars cs).count c = left.count c + (trimChars cs).count c + right.count c := by
      rw [List.count_eq_zero.mpr (blankAbsent before visible),
        List.count_eq_zero.mpr (blankAbsent after visible), Nat.zero_add, Nat.add_zero]
    _ = cs.count c := by rw [← List.count_append, ← List.count_append, ← whole]

end Text

namespace Routing
open Text (Blank trimChars splitOn isBlank)

theorem usableIff (cs : List Char) : usable (trimChars cs) = true ↔ cs.count ':' = 1 := by
  rw [usable, Bool.and_eq_true, decide_eq_true_eq, beq_iff_eq, Text.trimCount cs (by decide)]
  refine ⟨fun found => found.2, fun one => ⟨fun nothing => ?_, one⟩⟩
  rw [← Text.trimCount cs (by decide), nothing] at one
  cases one

/-! Segments -/

theorem addressesAppend (a b : String) : addresses (a ++ ";" ++ b) = addresses a ++ addresses b := by
  have joined : (a ++ ";" ++ b).toList = a.toList ++ ';' :: b.toList := by
    rw [String.toList_append, String.toList_append, List.append_assoc]
    rfl
  rw [addresses, joined, Text.splitOnAppend, List.map_append, List.filter_append, List.map_append]
  rfl

/-- A segment that gives no address. -/
def Useless (segment : String) : Prop := Blank segment.toList ∨ segment.toList.count ':' ≠ 1

theorem segmentAddresses {segment : String} (whole : ';' ∉ segment.toList) :
    addresses segment = if segment.toList.count ':' = 1 then [Text.trim segment] else [] := by
  have usable := usableIff segment.toList
  rw [addresses, Text.splitOnClean whole, List.map_singleton]
  split
  · rename_i one
    rw [List.filter_cons_of_pos (usable.mpr one)]
    rfl
  · rename_i other
    rw [List.filter_cons_of_neg (mt usable.mp other)]
    rfl

theorem uselessAddresses {segment : String} (whole : ';' ∉ segment.toList) (useless : Useless segment) :
    addresses segment = [] := by
  refine (segmentAddresses whole).trans (if_neg ?_)
  rcases useless with blank | other
  · rw [List.count_eq_zero.mpr (Text.blankAbsent blank (by decide))]
    exact Nat.zero_ne_one
  · exact other

/-- What separators, blanks and useless segments make of one list. -/
inductive Respelled : String → String → Prop
  | refl (a : String) : Respelled a a
  | symm {a b} (back : Respelled b a) : Respelled a b
  | trans {a b c} (first : Respelled a b) (second : Respelled b c) : Respelled a c
  | joined {a b c d} (first : Respelled a b) (second : Respelled c d) : Respelled (a ++ ";" ++ c) (b ++ ";" ++ d)
  | padded {left segment right} (before : Blank left.toList) (whole : ';' ∉ segment.toList)
      (after : Blank right.toList) : Respelled (left ++ segment ++ right) segment
  | uselessFirst {segment} (whole : ';' ∉ segment.toList) (useless : Useless segment) (rest : String) :
      Respelled (segment ++ ";" ++ rest) rest
  | uselessLast {segment} (whole : ';' ∉ segment.toList) (useless : Useless segment) (rest : String) :
      Respelled (rest ++ ";" ++ segment) rest

theorem paddedAddresses {left segment right : String} (before : Blank left.toList)
    (whole : ';' ∉ segment.toList) (after : Blank right.toList) :
    addresses (left ++ segment ++ right) = addresses segment := by
  have chars : (left ++ segment ++ right).toList = left.toList ++ (segment.toList ++ right.toList) := by
    rw [String.toList_append, String.toList_append, List.append_assoc]
  have clean : ';' ∉ (left ++ segment ++ right).toList := by
    rw [chars, List.mem_append, List.mem_append, not_or, not_or]
    exact ⟨Text.blankAbsent before (by decide), whole, Text.blankAbsent after (by decide)⟩
  have trimmed : trimChars (left ++ segment ++ right).toList = trimChars segment.toList := by
    rw [chars, Text.trimFront before, Text.trimBack _ after]
  rw [addresses, addresses, Text.splitOnClean clean, Text.splitOnClean whole, List.map_singleton, trimmed]
  rfl

theorem respelledAddresses {a b : String} (same : Respelled a b) : addresses a = addresses b := by
  induction same with
  | refl => rfl
  | symm _ ih => exact ih.symm
  | trans _ _ first second => exact first.trans second
  | joined _ _ first second => rw [addressesAppend, addressesAppend, first, second]
  | padded before whole after => exact paddedAddresses before whole after
  | uselessFirst whole useless rest => rw [addressesAppend, uselessAddresses whole useless, List.nil_append]
  | uselessLast whole useless rest => rw [addressesAppend, uselessAddresses whole useless, List.append_nil]

/-! Every text comes down to its addresses joined -/

theorem nothingUseless : Useless "" := .inl fun _ member => nomatch member

theorem respelledNothing {segment : String} (whole : ';' ∉ segment.toList) (useless : Useless segment) :
    Respelled segment "" := by
  have added : Respelled (segment ++ ";" ++ "") segment := .uselessLast List.not_mem_nil nothingUseless segment
  exact added.symm.trans (.uselessFirst whole useless "")

theorem respelledTrim {segment : String} (whole : ';' ∉ segment.toList) :
    Respelled segment (Text.trim segment) := by
  obtain ⟨left, right, split, before, after⟩ := Text.trimSplit segment.toList
  have clean : ';' ∉ (Text.trim segment).toList := by
    rw [Text.trim, String.toList_ofList]
    exact fun inside => whole (Text.memTrim inside)
  have spelled : Respelled (String.ofList left ++ Text.trim segment ++ String.ofList right) (Text.trim segment) :=
    .padded (by rwa [String.toList_ofList]) clean (by rwa [String.toList_ofList])
  have text : String.ofList left ++ Text.trim segment ++ String.ofList right = segment := by
    rw [Text.trim, ← String.ofList_append, ← String.ofList_append, ← split, String.ofList_toList]
  rwa [text] at spelled

theorem respelledSegment {segment : String} (whole : ';' ∉ segment.toList) :
    Respelled segment (";".intercalate (addresses segment)) := by
  rw [segmentAddresses whole]
  split
  · rw [String.intercalate_singleton]
    exact respelledTrim whole
  · rw [String.intercalate_nil]
    exact respelledNothing whole (.inr ‹_›)

theorem respelledMore {a b : String} {as bs : List String} (first : Respelled a (";".intercalate as))
    (second : Respelled b (";".intercalate bs)) : Respelled (a ++ ";" ++ b) (";".intercalate (as ++ bs)) := by
  refine (Respelled.joined first second).trans ?_
  by_cases noFirst : as = []
  · subst noFirst
    exact .uselessFirst List.not_mem_nil nothingUseless _
  · by_cases noSecond : bs = []
    · subst noSecond
      rw [List.append_nil]
      exact .uselessLast List.not_mem_nil nothingUseless _
    · rw [String.intercalate_append_of_ne_nil noFirst noSecond]
      exact .refl _

theorem respelledPieces {pieces : List String} (filled : pieces ≠ [])
    (whole : ∀ p ∈ pieces, ';' ∉ p.toList) :
    Respelled (";".intercalate pieces) (";".intercalate (addresses (";".intercalate pieces))) := by
  induction pieces with
  | nil => exact absurd rfl filled
  | cons p ps ih =>
    obtain ⟨clean, others⟩ := List.forall_mem_cons.mp whole
    by_cases alone : ps = []
    · subst alone
      rw [String.intercalate_singleton]
      exact respelledSegment clean
    · rw [String.intercalate_cons_of_ne_nil alone, addressesAppend]
      exact respelledMore (respelledSegment clean) (ih alone others)

theorem respelledNormal (value : String) : Respelled value (";".intercalate (addresses value)) := by
  have pieces := @respelledPieces ((splitOn ';' value.toList).map String.ofList)
    (mt List.map_eq_nil_iff.mp (Text.splitOnNonempty _)) ?_
  · have text : ";".intercalate ((splitOn ';' value.toList).map String.ofList) = value := by
      rw [← String.toList_inj, String.toList_intercalate, List.map_map]
      have lists : (String.toList ∘ String.ofList) = id := funext fun _ => String.toList_ofList
      rw [lists, List.map_id]
      exact (Text.joinIntercalate ';' _).trans (Text.joinOfSplit _)
    rwa [text] at pieces
  · intro p member
    obtain ⟨cs, cut, rfl⟩ := List.mem_map.mp member
    rw [String.toList_ofList]
    exact Text.splitPieceClean cut

theorem respelledIff (a b : String) : Respelled a b ↔ addresses a = addresses b := by
  refine ⟨respelledAddresses, fun same => (respelledNormal a).trans ?_⟩
  rw [same]
  exact (respelledNormal b).symm

/-- One address as a list shows it. -/
structure Tidy (address : String) : Prop where
  filled : address ≠ ""
  first : ∀ c, address.toList.head? = some c → isBlank c = false
  last : ∀ c, address.toList.getLast? = some c → isBlank c = false
  whole : ';' ∉ address.toList
  colon : address.toList.count ':' = 1

theorem normalTidy {address : String} (normal : Normal address) : Tidy address := by
  have one : address.toList.count ':' = 1 := (usableIff address.toList).mp (normal.trimmed.symm ▸ normal.usable)
  refine ⟨?_, fun c found => ?_, fun c found => ?_, normal.whole, one⟩
  · rintro rfl
    cases one
  · exact Text.trimCharsHead (normal.trimmed.symm ▸ found)
  · exact Text.trimCharsLast (normal.trimmed.symm ▸ found)

structure Canonical (a b : String) : Prop where
  split : addresses (a ++ ";" ++ b) = addresses a ++ addresses b
  tidy : ∀ address ∈ addresses a, Tidy address
  again : addresses (";".intercalate (addresses a)) = addresses a
  respelled : Respelled a b ↔ addresses a = addresses b
  unmoved : Respelled a b → ∀ r : Routing, r.updateRouters a = r.updateRouters b ∧
    (r.updateRouters a).changes b = false

theorem listsCanonical (a b : String) : Canonical a b := by
  refine ⟨addressesAppend a b, fun address member => normalTidy (addressNormal member),
    addressesJoined fun address => addressNormal, respelledIff a b, fun same r => ⟨?_, ?_⟩⟩
  · rw [updateRouters, updateRouters, changes, changes, respelledAddresses same]
  · have after := applyTable r (.routers a)
    rw [Bool.eq_false_iff, ne_eq, changesIff, ← respelledAddresses same]
    rintro ⟨some, differs⟩
    rw [Update.list?, if_neg some] at after
    exact differs after.symm

end Routing

end TraceRelay
