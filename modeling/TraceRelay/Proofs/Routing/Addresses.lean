import TraceRelay.Routing.Address
/-! Addresses as they are read from a text. Each one is trimmed, has its one colon and holds no semicolon, so that
reading what a list of them is written as gives that list back. -/
namespace TraceRelay

namespace Text

theorem dropBlanksStays {cs : List Char} (first : ∀ c, cs.head? = some c → isBlank c = false) :
    cs.dropWhile isBlank = cs := by
  cases cs with
  | nil => rfl
  | cons c cs =>
    rw [List.dropWhile_cons, first c rfl]
    rfl

theorem trimStays {cs : List Char} (first : ∀ c, cs.head? = some c → isBlank c = false)
    (last : ∀ c, cs.getLast? = some c → isBlank c = false) : trimChars cs = cs := by
  have back : cs.reverse.dropWhile isBlank = cs.reverse :=
    dropBlanksStays fun c found => last c (List.head?_reverse ▸ found)
  rw [trimChars, dropBlanksStays first, back, List.reverse_reverse]

theorem trimTwice (cs : List Char) : trimChars (trimChars cs) = trimChars cs :=
  trimStays (fun _ => trimCharsHead) (fun _ => trimCharsLast)

theorem memTrim {cs : List Char} {c : Char} (member : c ∈ trimChars cs) : c ∈ cs := by
  have back := (List.dropWhile_sublist isBlank).subset (List.mem_reverse.mp member)
  exact (List.dropWhile_sublist isBlank).subset (List.mem_reverse.mp back)

theorem joinIntercalate {α : Type} (sep : α) (pieces : List (List α)) :
    [sep].intercalate pieces = joinWith sep pieces := by
  induction pieces with
  | nil => rfl
  | cons p ps ih =>
    cases ps with
    | nil => exact List.intercalate_singleton
    | cons q qs =>
      rw [List.intercalate_cons_cons, ih, joinWith, List.append_assoc]
      rfl

end Text

namespace Routing
open Text (trimChars splitOn)

structure Normal (address : String) : Prop where
  trimmed : trimChars address.toList = address.toList
  usable : usable address.toList = true
  whole : ';' ∉ address.toList

theorem addressNormal {value address : String} (member : address ∈ addresses value) : Normal address := by
  obtain ⟨piece, kept, rfl⟩ := List.mem_map.mp member
  obtain ⟨found, usable⟩ := List.mem_filter.mp kept
  obtain ⟨segment, cut, rfl⟩ := List.mem_map.mp found
  have clean := Text.splitPieceClean cut
  refine ⟨?_, ?_, ?_⟩ <;> rw [String.toList_ofList]
  · exact Text.trimTwice segment
  · exact usable
  · exact fun inside => clean (Text.memTrim inside)

/-- Nothing is lost between writing and reading, so two spellings of one list compare equal. -/
theorem addressesJoined {as : List String} (normal : ∀ a ∈ as, Normal a) :
    addresses (";".intercalate as) = as := by
  cases as with
  | nil => rfl
  | cons a rest =>
    have cut : splitOn ';' (";".intercalate (a :: rest)).toList = (a :: rest).map String.toList := by
      rw [String.toList_intercalate]
      refine (congrArg (splitOn ';') (Text.joinIntercalate ';' _)).trans (Text.splitOfJoin fun q member => ?_)
      obtain ⟨b, inside, rfl⟩ := (List.mem_map (l := a :: rest)).mp member
      exact (normal b inside).whole
    have trimmed : ((a :: rest).map String.toList).map trimChars = (a :: rest).map String.toList := by
      rw [List.map_map]
      exact List.map_congr_left fun b member => (normal b member).trimmed
    have kept : ((a :: rest).map String.toList).filter usable = (a :: rest).map String.toList := by
      refine List.filter_eq_self.mpr fun p member => ?_
      obtain ⟨b, inside, rfl⟩ := List.mem_map.mp member
      exact (normal b inside).usable
    rw [addresses, cut, trimmed, kept, List.map_map]
    exact (List.map_congr_left fun b _ => String.ofList_toList).trans (List.map_id _)

end Routing

end TraceRelay
