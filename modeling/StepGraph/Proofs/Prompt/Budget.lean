import Mathlib.Logic.Function.Iterate
import Mathlib.Order.Bounds.Basic
import StepGraph.Prompt

/-! How a prompt is made to fit. Entries are dropped one by one, and each of them makes the text
shorter: first those of the history, from the oldest on, and then those of the static context,
from the outermost on. Of all the texts on that way, the first one that fits is the prompt, so as
much is kept as fits; and only the last one, from which nothing is left to drop, is ever cut. -/
namespace StepGraph

variable {α : Type} {heading : String} {item : α → String} {items fewer : List α} {first : α}
  {sections : Sections} {outcomes : List String} {budget dropped outermost oldest : Nat}

namespace Sections

/-- The size of the rendered sections in bytes. -/
def size (sections : Sections) (outcomes : List String) : Nat :=
  (sections.render outcomes).utf8ByteSize

/-- The rendered sections fit the budget. -/
def Fits (budget : Nat) (outcomes : List String) (sections : Sections) : Prop :=
  sections.size outcomes ≤ budget

instance : Decidable (sections.Fits budget outcomes) :=
  inferInstanceAs (Decidable (sections.size outcomes ≤ budget))

/-- The size of the items of a section. -/
def itemsSize (item : α → String) (items : List α) : Nat :=
  (String.join (items.map item)).utf8ByteSize

private theorem itemsSize_cons : itemsSize item (first :: items) =
    (item first).utf8ByteSize + itemsSize item items := by
  simp [itemsSize]

private theorem itemsSize_concat : itemsSize item (items ++ [first]) =
    itemsSize item items + (item first).utf8ByteSize := by
  simp [itemsSize]

/-- With its items a section gets shorter; without any, it has no heading either. -/
theorem block_lt (smaller : itemsSize item fewer < itemsSize item items) :
    (block heading item fewer).utf8ByteSize < (block heading item items).utf8ByteSize := by
  have some : items.isEmpty = false := by
    rw [List.isEmpty_eq_false_iff]
    rintro rfl
    exact absurd smaller (Nat.not_lt_zero _)
  have line : "\n".utf8ByteSize = 1 := rfl
  have mark : "\n## ".utf8ByteSize = 4 := rfl
  unfold itemsSize at smaller
  unfold block
  rw [some]
  split <;> simp only [Bool.false_eq_true, if_false, String.utf8ByteSize_append] <;> omega

private theorem historyItem_pos (entry : Entry) : 0 < (historyItem entry).utf8ByteSize := by
  have mark : "### ".utf8ByteSize = 4 := rfl
  simp only [historyItem, String.utf8ByteSize_append]
  omega

private theorem staticLine_pos (entry : String × String) : 0 < (staticLine entry).utf8ByteSize := by
  have mark : "- **".utf8ByteSize = 4 := rfl
  simp only [staticLine, String.utf8ByteSize_append]
  omega

private theorem append_lt {shorter longer : String} (front : String)
    (smaller : shorter.utf8ByteSize < longer.utf8ByteSize) :
    (front ++ shorter).utf8ByteSize < (front ++ longer).utf8ByteSize := by
  rw [String.utf8ByteSize_append, String.utf8ByteSize_append]
  omega

private theorem lt_append {shorter longer : String} (back : String)
    (smaller : shorter.utf8ByteSize < longer.utf8ByteSize) :
    (shorter ++ back).utf8ByteSize < (longer ++ back).utf8ByteSize := by
  rw [String.utf8ByteSize_append, String.utf8ByteSize_append]
  omega

private theorem size_history_lt (sections : Sections) {later : Payload}
    (smaller : itemsSize historyItem later < itemsSize historyItem sections.history) :
    { sections with history := later }.size outcomes < sections.size outcomes := by
  unfold size render
  -- Behind the history stand the files, the output contract and the two parts of the last section.
  iterate 4 refine lt_append _ ?_
  exact append_lt _ (block_lt smaller)

private theorem size_staticContext_lt (sections : Sections) {inner : List (String × String)}
    (smaller : itemsSize staticLine inner < itemsSize staticLine sections.staticContext) :
    { sections with staticContext := inner }.size outcomes < sections.size outcomes := by
  unfold size render
  iterate 5 refine lt_append _ ?_
  exact append_lt _ (block_lt smaller)

/-- What is left without so many of the oldest entries of the history, and of the outermost
entries of the static context. -/
def without (sections : Sections) (oldest outermost : Nat) : Sections :=
  { sections with
    history := sections.history.drop oldest
    staticContext := sections.staticContext.take (sections.staticContext.length - outermost) }

private theorem without_zero : sections.without 0 0 = sections := by
  simp [without]

/-- Each entry of the history takes room. -/
theorem size_without_oldest_lt (more : oldest < sections.history.length) :
    (sections.without (oldest + 1) outermost).size outcomes <
      (sections.without oldest outermost).size outcomes := by
  have smaller : itemsSize historyItem (sections.history.drop (oldest + 1)) <
      itemsSize historyItem (sections.history.drop oldest) := by
    rw [List.drop_eq_getElem_cons more, itemsSize_cons]
    have := historyItem_pos sections.history[oldest]
    omega
  exact size_history_lt (sections.without oldest outermost) smaller

/-- Each entry of the static context takes room. -/
theorem size_without_outermost_lt (more : outermost < sections.staticContext.length) :
    (sections.without oldest (outermost + 1)).size outcomes <
      (sections.without oldest outermost).size outcomes := by
  have smaller : itemsSize staticLine
        (sections.staticContext.take (sections.staticContext.length - (outermost + 1))) <
      itemsSize staticLine
        (sections.staticContext.take (sections.staticContext.length - outermost)) := by
    have last : sections.staticContext.length - outermost =
        sections.staticContext.length - (outermost + 1) + 1 := by omega
    have within : sections.staticContext.length - (outermost + 1) <
        sections.staticContext.length := by omega
    rw [last, ← List.take_append_getElem within, itemsSize_concat]
    have := staticLine_pos sections.staticContext[sections.staticContext.length - (outermost + 1)]
    omega
  exact size_staticContext_lt (sections.without oldest outermost) smaller

/-- What is left without the entry that is dropped next. -/
def shed (sections : Sections) : Sections :=
  match sections.history with
  | _ :: later => { sections with history := later }
  | [] => { sections with staticContext := sections.staticContext.dropLast }

/-- How many entries can be dropped. -/
def droppable (sections : Sections) : Nat :=
  sections.history.length + sections.staticContext.length

private theorem shed_of_none (held : sections.history = []) (none : sections.staticContext = []) :
    sections.shed = sections := by
  cases sections
  simp_all [shed]

/-- The history is dropped before the static context. -/
theorem iterate_shed (sections : Sections) (count : Nat) :
    shed^[count] sections =
      sections.without (min count sections.history.length) (count - sections.history.length) := by
  induction count generalizing sections with
  | zero => simp [without]
  | succ count ih =>
    rw [Function.iterate_succ_apply, ih]
    cases held : sections.history with
    | nil =>
      have fewer : min (sections.staticContext.length - 1 - count)
          sections.staticContext.length = sections.staticContext.length - (count + 1) := by
        omega
      simp [shed, held, without, List.dropLast_eq_take, List.take_take, fewer]
    | cons entry later => simp [shed, held, without]

private theorem iterate_shed_history (within : oldest ≤ sections.history.length) :
    shed^[oldest] sections = sections.without oldest 0 := by
  rw [iterate_shed, Nat.min_eq_left within, Nat.sub_eq_zero_of_le within]

private theorem iterate_shed_staticContext (sections : Sections) (outermost : Nat) :
    shed^[sections.history.length + outermost] sections =
      sections.without sections.history.length outermost := by
  rw [iterate_shed, Nat.min_eq_right (Nat.le_add_right _ _), Nat.add_sub_cancel_left]

theorem takeBytes_le (budget : Nat) (chars : List Char) :
    (String.ofList (Prompt.takeBytes budget chars)).utf8ByteSize ≤ budget := by
  induction chars generalizing budget with
  | nil => exact Nat.zero_le _
  | cons c rest ih =>
    unfold Prompt.takeBytes
    split
    · have more := ih (budget - c.utf8Size)
      rw [String.ofList_cons, String.utf8ByteSize_append, String.utf8ByteSize_singleton]
      omega
    · exact Nat.zero_le _

/-- A text that is cut fits. -/
theorem truncate_le (text : String) (budget : Nat) :
    (Prompt.truncate text budget).utf8ByteSize ≤ budget := by
  unfold Prompt.truncate
  split
  · exact takeBytes_le _ _
  · have kept := takeBytes_le (budget - Prompt.notice.utf8ByteSize) text.toList
    rw [String.utf8ByteSize_append]
    omega

/-- The text is the first that fits of those that come about by dropping entry after entry, or
the last of them, cut, if none of them fits. -/
def FirstFitting (budget : Nat) (outcomes : List String) (sections : Sections)
    (text : String) : Prop :=
  (∃ count, (shed^[count] sections).Fits budget outcomes ∧
      (∀ fewer < count, ¬ (shed^[fewer] sections).Fits budget outcomes) ∧
      text = (shed^[count] sections).render outcomes) ∨
    (∀ count, ¬ (shed^[count] sections).Fits budget outcomes) ∧
      text = Prompt.truncate ((shed^[sections.droppable] sections).render outcomes) budget

variable {text : String}

private theorem FirstFitting.of_fits (fits : sections.Fits budget outcomes) :
    sections.FirstFitting budget outcomes (sections.render outcomes) :=
  Or.inl ⟨0, fits, nofun, rfl⟩

private theorem not_fits_iterate_succ (large : ¬ sections.Fits budget outcomes) {bound : Nat}
    (none : ∀ count < bound, ¬ (shed^[count] sections.shed).Fits budget outcomes) :
    ∀ count < bound + 1, ¬ (shed^[count] sections).Fits budget outcomes := by
  intro count within
  cases count with
  | zero => exact large
  | succ count =>
    rw [Function.iterate_succ_apply]
    exact none count (Nat.lt_of_succ_lt_succ within)

/-- If the whole does not fit, the first text that fits is that of what is left without the entry
that is dropped next. -/
theorem FirstFitting.of_shed (large : ¬ sections.Fits budget outcomes)
    (one : sections.droppable = sections.shed.droppable + 1)
    (first : sections.shed.FirstFitting budget outcomes text) :
    sections.FirstFitting budget outcomes text := by
  rcases first with ⟨count, fits, least, same⟩ | ⟨none, same⟩
  · refine Or.inl ⟨count + 1, ?_, not_fits_iterate_succ large least, ?_⟩
    · rw [Function.iterate_succ_apply]
      exact fits
    · rw [Function.iterate_succ_apply]
      exact same
  · refine Or.inr ⟨fun count => ?_, ?_⟩
    · exact not_fits_iterate_succ large (fun count _ => none count) count (Nat.lt_succ_self count)
    · rw [one, Function.iterate_succ_apply]
      exact same

private theorem firstFitting_fit (budget : Nat) (outcomes : List String) (sections : Sections) :
    sections.FirstFitting budget outcomes (Prompt.fit budget outcomes sections) := by
  fun_induction Prompt.fit budget outcomes sections with
  | case1 sections rendered fits => exact .of_fits fits
  | case2 sections rendered large entry later held ih =>
    have next : sections.shed = { sections with history := later } := by simp [shed, held]
    refine .of_shed large ?_ ?_
    · rw [next, droppable, droppable, held, List.length_cons]
      exact Nat.succ_add _ _
    · rw [next]
      exact ih
  | case3 sections rendered large held none =>
    have nothing : sections.droppable = 0 := by simp [droppable, held, none]
    refine Or.inr ⟨fun count => ?_, by rw [nothing]; rfl⟩
    rw [Function.iterate_fixed (shed_of_none held none)]
    exact large
  | case4 sections rendered large held some ih =>
    have next : sections.shed =
        { sections with staticContext := sections.staticContext.dropLast } := by simp [shed, held]
    refine .of_shed large ?_ ?_
    · have more := List.length_pos_iff.mpr some
      simp only [next, droppable, List.length_dropLast]
      omega
    · rw [next]
      exact ih

end Sections

namespace Prompt

/-- How a prompt comes about from sections. -/
inductive Keeps (budget : Nat) (outcomes : List String) (whole : Sections) : String → Prop where
  /-- So many of the oldest entries of the history are dropped, and no fewer would do. -/
  | history (oldest : Nat) (fits : (whole.without oldest 0).Fits budget outcomes)
      (least : ∀ fewer < oldest, ¬ (whole.without fewer 0).Fits budget outcomes) :
      Keeps budget outcomes whole ((whole.without oldest 0).render outcomes)
  /-- It is not enough to drop the history. With it, so many of the outermost entries of the
  static context are dropped, and no fewer would do. -/
  | staticContext (outermost : Nat)
      (large : ∀ oldest, ¬ (whole.without oldest 0).Fits budget outcomes)
      (fits : (whole.without whole.history.length outermost).Fits budget outcomes)
      (least : ∀ fewer < outermost,
        ¬ (whole.without whole.history.length fewer).Fits budget outcomes) :
      Keeps budget outcomes whole ((whole.without whole.history.length outermost).render outcomes)
  /-- It is not enough to drop all of both. What is left is cut. -/
  | nothing
      (large : ∀ oldest, ¬ (whole.without oldest 0).Fits budget outcomes)
      (larger : ∀ outermost,
        ¬ (whole.without whole.history.length outermost).Fits budget outcomes) :
      Keeps budget outcomes whole
        (truncate ((whole.without whole.history.length whole.staticContext.length).render outcomes)
          budget)

variable {whole : Sections} {text : String} {later : Payload}

private theorem not_fits_without
    (large : ∀ count ≤ whole.history.length, ¬ (Sections.shed^[count] whole).Fits budget outcomes)
    (oldest : Nat) : ¬ (whole.without oldest 0).Fits budget outcomes := by
  -- Beyond the length of the history, nothing more is dropped.
  have all : whole.without oldest 0 = whole.without (min oldest whole.history.length) 0 := by
    simp [Sections.without, List.drop_eq_drop_min]
  rw [all, ← Sections.iterate_shed_history (Nat.min_le_right _ _)]
  exact large _ (Nat.min_le_right _ _)

/-- The first text that fits, told by what is dropped of the history and of the static context. -/
theorem keeps_fit (budget : Nat) (outcomes : List String) (whole : Sections) :
    Keeps budget outcomes whole (fit budget outcomes whole) := by
  have staticContext := whole.iterate_shed_staticContext
  rcases Sections.firstFitting_fit budget outcomes whole with
    ⟨count, fits, least, same⟩ | ⟨none, same⟩
  · by_cases within : count ≤ whole.history.length
    · have history := Sections.iterate_shed_history within
      rw [same, history]
      rw [history] at fits
      refine .history count fits fun fewer less => ?_
      rw [← Sections.iterate_shed_history (less.le.trans within)]
      exact least fewer less
    · have beyond := Nat.lt_of_not_le within
      obtain ⟨outermost, rfl⟩ := Nat.exists_eq_add_of_le beyond.le
      rw [same, staticContext]
      rw [staticContext] at fits
      refine .staticContext outermost ?_ fits fun fewer less => ?_
      · exact not_fits_without fun count within => least count (within.trans_lt beyond)
      · rw [← staticContext]
        exact least _ (Nat.add_lt_add_left less _)
  · rw [same, Sections.droppable, staticContext]
    refine .nothing (not_fits_without fun count _ => none count) fun outermost => ?_
    rw [← staticContext]
    exact none _

private theorem Keeps.le (keeps : Keeps budget outcomes whole text) :
    text.utf8ByteSize ≤ budget := by
  cases keeps with
  | history _ fits => exact fits
  | staticContext _ _ fits => exact fits
  | nothing => exact Sections.truncate_le _ _

/-- Every end of the history that fits is kept. -/
theorem Keeps.longest (keeps : Keeps budget outcomes whole text) (suffix : later <:+ whole.history)
    (fits : { whole with history := later }.Fits budget outcomes) :
    ∃ kept, later <:+ kept ∧ kept <:+ whole.history ∧
      text = { whole with history := kept }.render outcomes := by
  have dropped (oldest : Nat) :
      whole.without oldest 0 = { whole with history := whole.history.drop oldest } := by
    simp [Sections.without]
  rw [List.suffix_iff_eq_drop.mp suffix, ← dropped] at fits
  cases keeps with
  | history oldest _ least =>
    refine ⟨whole.history.drop oldest, ?_, List.drop_suffix _ _, by rw [dropped]⟩
    rw [List.suffix_iff_eq_drop.mp suffix]
    refine List.drop_suffix_drop_left _ (Nat.le_of_not_lt fun less => ?_)
    exact least _ less fits
  | staticContext _ large => exact absurd fits (large _)
  | nothing large => exact absurd fits (large _)

theorem fit_of_fits (fits : whole.Fits budget outcomes) :
    fit budget outcomes whole = whole.render outcomes := by
  unfold Sections.Fits Sections.size at fits
  rw [fit, if_pos fits]

/-- A prompt never exceeds its budget. If everything fits, it is all there. Otherwise the fewest of
the oldest entries of the history are dropped without which it fits, and when the whole history
does not do, the fewest of the outermost entries of the static context as well; only what is left
without all of them is ever cut. As each entry makes the text longer, the history that is kept is
the longest that fits. -/
theorem prompts_keep_what_fits (budget : Nat) (context : Payload) (outcomes : List String) :
    (build budget context outcomes).utf8ByteSize ≤ budget ∧
      ((Sections.ofContext context).Fits budget outcomes →
        build budget context outcomes = (Sections.ofContext context).render outcomes) ∧
      Keeps budget outcomes (Sections.ofContext context) (build budget context outcomes) ∧
      (∀ oldest outermost, oldest < (Sections.ofContext context).history.length →
        ((Sections.ofContext context).without (oldest + 1) outermost).size outcomes <
          ((Sections.ofContext context).without oldest outermost).size outcomes) ∧
      (∀ oldest outermost, outermost < (Sections.ofContext context).staticContext.length →
        ((Sections.ofContext context).without oldest (outermost + 1)).size outcomes <
          ((Sections.ofContext context).without oldest outermost).size outcomes) ∧
      ∀ later, later <:+ (Sections.ofContext context).history →
        { Sections.ofContext context with history := later }.Fits budget outcomes →
          ∃ kept, later <:+ kept ∧ kept <:+ (Sections.ofContext context).history ∧
            build budget context outcomes =
              { Sections.ofContext context with history := kept }.render outcomes := by
  have keeps := keeps_fit budget outcomes (Sections.ofContext context)
  exact ⟨keeps.le, fit_of_fits, keeps, fun _ _ => Sections.size_without_oldest_lt,
    fun _ _ => Sections.size_without_outermost_lt, fun _ => keeps.longest⟩

/-- A message of the second step. -/
def secondMessage : Entry := ⟨"message:Main__B:2", Kind.message, "Now it does."⟩

/-- Two messages and a convention. -/
def dialogue : Payload :=
  [⟨"message:Main__A:1", Kind.message, "It does not build."⟩, secondMessage,
    ⟨"static:Main:style", Kind.staticContext, "rustfmt"⟩]

/-- The whole dialogue takes 364 bytes. With one byte less, the second message is still kept. -/
theorem second_message_is_kept :
    build 364 dialogue ["SUCCESS"] = (Sections.ofContext dialogue).render ["SUCCESS"] ∧
      ((Sections.ofContext dialogue).without 1 0).size ["SUCCESS"] <
        (Sections.ofContext dialogue).size ["SUCCESS"] ∧
      ((Sections.ofContext dialogue).without 2 1).size ["SUCCESS"] <
        ((Sections.ofContext dialogue).without 2 0).size ["SUCCESS"] ∧
      { Sections.ofContext dialogue with history := [secondMessage] }.Fits 363 ["SUCCESS"] ∧
      ∃ kept, [secondMessage] <:+ kept ∧ kept <:+ (Sections.ofContext dialogue).history ∧
        build 363 dialogue ["SUCCESS"] =
          { Sections.ofContext dialogue with history := kept }.render ["SUCCESS"] ∧
        { Sections.ofContext dialogue with history := kept }.size ["SUCCESS"] ≤ 363 := by
  obtain ⟨-, whole, -, oldest, outermost, -⟩ := prompts_keep_what_fits 364 dialogue ["SUCCESS"]
  obtain ⟨le, -, -, -, -, longest⟩ := prompts_keep_what_fits 363 dialogue ["SUCCESS"]
  have fits : { Sections.ofContext dialogue with history := [secondMessage] }.Fits 363
      ["SUCCESS"] := by decide +kernel
  obtain ⟨kept, behind, within, same⟩ := longest _ (by decide) fits
  rw [same] at le
  have shorter := oldest 0 0 (by decide)
  rw [Sections.without_zero, Nat.zero_add] at shorter
  exact ⟨whole (by decide +kernel), shorter, outermost 2 0 (by decide), fits, kept, behind, within,
    same, le⟩

end Prompt
end StepGraph
