import CellRunner.Frame

/-!
Messages read back. Nothing in a message is escaped: a message is cut at its first line feed, and
the header at its first three blanks. So the frame comes back, whatever its numbers and its text
are and however many blanks its name has, as long as the name holds no line feed.
-/

namespace CellRunner.Frame

open Text.Decimal (digits)

/-- The fields of the header in front of the source's name. -/
def leadingFields (frame : Frame) : List (List Char) :=
  ["%%paste".toList, digits frame.lineCount, digits frame.firstLine]

theorem notMem_digits {c : Char} (other : Text.Decimal.isDigit c = false) (n : Nat)
    : c ∉ digits n := by
  intro member
  simp [Text.Decimal.isDigit_of_mem_digits member] at other

/-- The fields are made of visible characters, so no cut is made within one. -/
theorem notMem_leadingFields (frame : Frame) {c : Char} (other : Text.Decimal.isDigit c = false)
    (untagged : c ∉ "%%paste".toList)
    : ∀ field ∈ frame.leadingFields, c ∉ field := by
  simp only [leadingFields, List.forall_mem_cons]
  exact ⟨untagged, notMem_digits other _, notMem_digits other _, by simp⟩

/-- A blank follows each of the fields. -/
def lead (frame : Frame) : List Char :=
  frame.leadingFields.flatMap (· ++ [' '])

theorem newline_notMem_lead (frame : Frame)
    : '\n' ∉ frame.lead := by
  intro member
  obtain ⟨field, among, inside⟩ := List.mem_flatMap.mp member
  have absent : '\n' ∉ field :=
    frame.notMem_leadingFields (by decide) (by decide) field among
  simp [absent] at inside

theorem toList_render (frame : Frame)
    : frame.render.toList
      = frame.lead ++ (frame.sourceName.toList ++ '\n' :: frame.text.toList) := by
  simp [render, header, lead, leadingFields]

theorem fieldsUpTo_lead (frame : Frame) (name : List Char)
    : Text.fieldsUpTo ' ' 3 (frame.lead ++ name) = frame.leadingFields ++ [name] :=
  Text.fieldsUpTo_eq_append_iff.mpr
    ⟨rfl, frame.notMem_leadingFields (by decide) (by decide)⟩

/-- The name that is read ends at the first line feed behind the numbers, and the text is all that
follows it. -/
theorem read?_render {frame : Frame} {name text : List Char}
    (rest : frame.sourceName.toList ++ '\n' :: frame.text.toList = name ++ '\n' :: text)
    (absent : '\n' ∉ name)
    : read? frame.render
      = some ⟨frame.lineCount, frame.firstLine, String.ofList name, String.ofList text⟩ := by
  have cut : Text.cutAt '\n' frame.render.toList = some (frame.lead ++ name, text) := by
    rw [Text.cutAt_eq_some_iff, toList_render, rest]
    exact ⟨by simp, by simp [newline_notMem_lead, absent]⟩
  simp only [read?, cut, Option.bind_eq_bind, Option.bind_some, fieldsUpTo_lead, leadingFields,
    List.cons_append, List.nil_append, if_true, Text.Decimal.read?_digits, Option.pure_def]

theorem read?_render_of_notMem {frame : Frame} (absent : '\n' ∉ frame.sourceName.toList)
    : read? frame.render = some frame := by
  simpa using read?_render rfl absent

/-- A frame that is read back has no line feed in its name. -/
theorem newline_notMem_of_read?_render {frame : Frame} (same : read? frame.render = some frame)
    : '\n' ∉ frame.sourceName.toList := by
  intro inside
  obtain ⟨name, more, split, absent⟩ := List.eq_append_cons_of_mem inside
  have rest : frame.sourceName.toList ++ '\n' :: frame.text.toList
      = name ++ '\n' :: (more ++ '\n' :: frame.text.toList) := by
    simp [split]
  have short := Option.some.inj ((read?_render rest absent).symm.trans same)
  rw [← congrArg Frame.sourceName short, String.toList_ofList] at inside
  exact absent inside

/-- A frame is read back from its message exactly if there is no line feed in its name, and two
frames without one have two messages. -/
theorem read_back_iff
    : (∀ frame : Frame,
          read? frame.render = some frame ↔ '\n' ∉ frame.sourceName.toList)
      ∧ ∀ one two : Frame,
          '\n' ∉ one.sourceName.toList
          → '\n' ∉ two.sourceName.toList
          → one ≠ two
          → one.render ≠ two.render := by
  refine ⟨fun frame => ⟨newline_notMem_of_read?_render, read?_render_of_notMem⟩, ?_⟩
  intro one two plainOne plainTwo different same
  have back : some one = some two := by
    rw [← read?_render_of_notMem plainOne, same, read?_render_of_notMem plainTwo]
  exact different (Option.some.inj back)

/-- A name that begins with numbers and a text that looks like a header, beside a name that is cut
short. -/
theorem read_back_iff_numbered_name
    : ∃ one two : Frame,
        one = ⟨1, 2, "3 a b", "%%paste 1 2 c\n\n"⟩
        ∧ two = ⟨1, 2, "3 a", "b\n%%paste 1 2 c\n\n"⟩
        ∧ '\n' ∉ one.sourceName.toList
        ∧ '\n' ∉ two.sourceName.toList
        ∧ one ≠ two
        ∧ read? one.render = some one
        ∧ one.render ≠ two.render := by
  have plainOne : '\n' ∉ "3 a b".toList := by decide
  have plainTwo : '\n' ∉ "3 a".toList := by decide
  have different : (⟨1, 2, "3 a b", "%%paste 1 2 c\n\n"⟩ : Frame)
      ≠ ⟨1, 2, "3 a", "b\n%%paste 1 2 c\n\n"⟩ := by decide
  exact ⟨_, _, rfl, rfl, plainOne, plainTwo, different, (read_back_iff.1 _).mpr plainOne,
    read_back_iff.2 _ _ plainOne plainTwo different⟩

end CellRunner.Frame
