import Mathlib.Data.Nat.PSub
import StepGraph.Proofs.Prompt.Budget
import StepGraph.Text.Utf8

/-! Where a text is cut. Cut by its bytes, one goes back from the budget to the nearest offset at
which a character begins, and there is room to leave for the notice. No step of this can fail: an
offset to stop at comes before the beginning of the text does, the notice is taken off only where it
fits, and what stands in front of the cut is text. So it comes to the longest beginning of whole
characters that fits. -/
namespace StepGraph.Prompt

variable {text kept : String} {offset room : Nat}

/-- From an offset back to the nearest one at which a character begins or the text ends. In front of
the first offset there is none. -/
def cutBefore? (text : String) : (offset : Nat) → Option Nat
  | 0 => if String.Pos.Raw.isValid text ⟨0⟩ then some 0 else none
  | offset + 1 =>
    if String.Pos.Raw.isValid text ⟨offset + 1⟩ then some (offset + 1) else cutBefore? text offset

/-- The bytes in front of an offset, if they are text. -/
def front? (text : String) (offset : Nat) : Option String :=
  Text.Utf8.strict? (text.toUTF8.extract 0 offset)

/-- A text cut to the budget by its bytes. -/
def truncateBytes? (text : String) (budget : Nat) : Option String :=
  if budget ≤ notice.utf8ByteSize then (cutBefore? text budget).bind (front? text)
  else do
    let room ← Nat.psub budget notice.utf8ByteSize
    let cut ← cutBefore? text room
    let kept ← front? text cut
    return kept ++ notice

/-- The longest beginning of whole characters that fits. -/
structure IsLongestFront (text : String) (room : Nat) (kept : String) : Prop where
  front : kept.toList <+: text.toList
  fits : kept.utf8ByteSize ≤ room
  longest : ∀ other : String, other.toList <+: text.toList → other.utf8ByteSize ≤ room →
    other.toList <+: kept.toList

private theorem utf8ByteSize_ofList_cons (c : Char) (rest : List Char) :
    (String.ofList (c :: rest)).utf8ByteSize = c.utf8Size + (String.ofList rest).utf8ByteSize := by
  rw [String.ofList_cons, String.utf8ByteSize_append, String.utf8ByteSize_singleton]

private theorem takeBytes_prefix (room : Nat) (chars : List Char) :
    takeBytes room chars <+: chars := by
  induction chars generalizing room with
  | nil => exact List.nil_prefix
  | cons c rest ih =>
    unfold takeBytes
    split
    · exact List.prefix_cons_inj c |>.mpr (ih _)
    · exact List.nil_prefix

/-- Every beginning that fits is kept. -/
theorem prefix_takeBytes {chars other : List Char} (front : other <+: chars)
    (fits : (String.ofList other).utf8ByteSize ≤ room) : other <+: takeBytes room chars := by
  induction chars generalizing room other with
  | nil =>
    rw [List.prefix_nil.mp front]
    exact List.nil_prefix
  | cons c rest ih =>
    cases other with
    | nil => exact List.nil_prefix
    | cons d more =>
      obtain ⟨rfl, along⟩ := List.cons_prefix_cons.mp front
      rw [utf8ByteSize_ofList_cons] at fits
      have first : d.utf8Size ≤ room := by omega
      have others : (String.ofList more).utf8ByteSize ≤ room - d.utf8Size := by omega
      rw [takeBytes, if_pos first]
      exact List.cons_prefix_cons.mpr ⟨rfl, ih along others⟩

private theorem isLongestFront_takeBytes (text : String) (room : Nat) :
    IsLongestFront text room (String.ofList (takeBytes room text.toList)) where
  front := by
    rw [String.toList_ofList]
    exact takeBytes_prefix room text.toList
  fits := Sections.takeBytes_le room text.toList
  longest := by
    intro other front fits
    rw [String.toList_ofList]
    apply prefix_takeBytes front
    rwa [String.ofList_toList]

/-- A text is one of its beginnings with another text behind it. -/
theorem exists_append_of_prefix {front : String} (within : front.toList <+: text.toList) :
    ∃ behind, text = front ++ behind := by
  obtain ⟨behind, whole⟩ := within
  refine ⟨String.ofList behind, ?_⟩
  rw [← String.toList_inj, String.toList_append, String.toList_ofList, whole]

private theorem utf8ByteSize_le_of_prefix {front : String} (within : front.toList <+: text.toList) :
    front.utf8ByteSize ≤ text.utf8ByteSize := by
  obtain ⟨behind, rfl⟩ := exists_append_of_prefix within
  rw [String.utf8ByteSize_append]
  exact Nat.le_add_right _ _

/-- One may cut behind the beginnings of whole characters. -/
theorem isValid_iff_exists_front : String.Pos.Raw.isValid text ⟨offset⟩ = true ↔
    ∃ front : String, front.toList <+: text.toList ∧ front.utf8ByteSize = offset := by
  rw [String.Pos.Raw.isValid_eq_true_iff, String.Pos.Raw.isValid_iff_exists_append]
  constructor
  · rintro ⟨front, behind, rfl, same⟩
    refine ⟨front, ?_, (congrArg String.Pos.Raw.byteIdx same).symm⟩
    rw [String.toList_append]
    exact List.prefix_append _ _
  · rintro ⟨front, within, rfl⟩
    obtain ⟨behind, whole⟩ := exists_append_of_prefix within
    exact ⟨front, behind, whole, rfl⟩

/-- The search for the cut ends behind the longest beginning that fits. -/
theorem IsLongestFront.cutBefore?_eq (longest : IsLongestFront text offset kept) :
    cutBefore? text offset = some kept.utf8ByteSize := by
  induction offset with
  | zero =>
    have nothing : kept.utf8ByteSize = 0 := Nat.le_zero.mp longest.fits
    have start := isValid_iff_exists_front.mpr ⟨kept, longest.front, nothing⟩
    rw [cutBefore?, if_pos start, nothing]
  | succ offset ih =>
    unfold cutBefore?
    by_cases boundary : String.Pos.Raw.isValid text ⟨offset + 1⟩ = true
    · obtain ⟨front, within, size⟩ := isValid_iff_exists_front.mp boundary
      have least := utf8ByteSize_le_of_prefix (longest.longest front within (Nat.le_of_eq size))
      have most := longest.fits
      rw [if_pos boundary]
      congr 1
      omega
    · have differs : kept.utf8ByteSize ≠ offset + 1 := fun same =>
        boundary (isValid_iff_exists_front.mpr ⟨kept, longest.front, same⟩)
      have fits := longest.fits
      rw [if_neg boundary]
      apply ih
      exact ⟨longest.front, by omega, fun other within small =>
        longest.longest other within (Nat.le_succ_of_le small)⟩

/-- What is cut there is text. -/
theorem front?_utf8ByteSize (within : kept.toList <+: text.toList) :
    front? text kept.utf8ByteSize = some kept := by
  obtain ⟨behind, rfl⟩ := exists_append_of_prefix within
  have bytes : (kept ++ behind).toUTF8.extract 0 kept.utf8ByteSize = kept.toUTF8 := by
    rw [String.toUTF8_eq_toByteArray, String.toByteArray_append]
    exact ByteArray.extract_append_eq_left rfl
  rw [front?, bytes, Text.Utf8.strict?_toUTF8]

private theorem IsLongestFront.bind_eq (longest : IsLongestFront text offset kept) :
    (cutBefore? text offset).bind (front? text) = some kept := by
  rw [longest.cutBefore?_eq, Option.bind_some, front?_utf8ByteSize longest.front]

/-- Cutting by offsets never fails, and it comes to the same. -/
theorem truncateBytes?_eq (text : String) (budget : Nat) :
    truncateBytes? text budget = some (truncate text budget) := by
  unfold truncateBytes? truncate
  by_cases short : budget ≤ notice.utf8ByteSize
  · rw [if_pos short, if_pos short]
    exact (isLongestFront_takeBytes text budget).bind_eq
  · rw [if_neg short, if_neg short]
    have longest := isLongestFront_takeBytes text (budget - notice.utf8ByteSize)
    simp [Nat.psub_eq_sub (Nat.le_of_not_le short), longest.cutBefore?_eq,
      front?_utf8ByteSize longest.front]

/-- A text is cut between characters, and what is left of it fits. To go back to the offset of the
cut, to leave room for the notice and to cut there never fails. With no more room than the notice
takes, the longest beginning of whole characters that fits is left, and otherwise the longest one
that leaves room for the notice, with the notice behind it. -/
theorem texts_are_cut_between_characters (text : String) (budget : Nat) :
    truncateBytes? text budget = some (truncate text budget) ∧
      (truncate text budget).utf8ByteSize ≤ budget ∧
      (budget ≤ notice.utf8ByteSize → IsLongestFront text budget (truncate text budget)) ∧
      (notice.utf8ByteSize < budget → ∃ kept,
        IsLongestFront text (budget - notice.utf8ByteSize) kept ∧
          truncate text budget = kept ++ notice) := by
  refine ⟨truncateBytes?_eq text budget, Sections.truncate_le text budget, ?_, ?_⟩
  · intro short
    rw [truncate, if_pos short]
    exact isLongestFront_takeBytes text budget
  · intro long
    refine ⟨_, isLongestFront_takeBytes text (budget - notice.utf8ByteSize), ?_⟩
    rw [truncate, if_neg (Nat.not_le.mpr long)]

end StepGraph.Prompt
