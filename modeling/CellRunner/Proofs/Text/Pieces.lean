import CellRunner.Text.Lines

/-!
The pieces of a text are terminated lines and one last line without a line feed, and no other
list of this form concatenates to the text. So a run of pieces is the list of pieces of its own
text, up to an empty last one.
-/

namespace CellRunner.Text

/-- A line with the line feed that ends it, and no other one. -/
def Terminated (piece : List Char) : Prop :=
  ∃ line, '\n' ∉ line ∧ piece = line ++ ['\n']

/-- A line with its line feed may be longer at the front, by another character. -/
theorem Terminated.cons {c : Char} {piece : List Char} (h : Terminated piece) (hc : c ≠ '\n')
    : Terminated (c :: piece) := by
  obtain ⟨line, absent, rfl⟩ := h
  exact ⟨c :: line, by simp [absent, hc.symm], rfl⟩

/-- A line with its line feed has one, at its end. -/
theorem Terminated.count {piece : List Char} (h : Terminated piece)
    : piece.count '\n' = 1 := by
  obtain ⟨line, absent, rfl⟩ := h
  simp [List.count_eq_zero.mpr absent]

/-- A line with its line feed ends in it. -/
theorem Terminated.getLast? {piece : List Char} (h : Terminated piece)
    : piece.getLast? = some '\n' := by
  obtain ⟨line, _, rfl⟩ := h
  simp

/-- A line feed at the front is a piece of its own, by one step of the fold. -/
theorem pieces_newline_cons (rest : List Char)
    : pieces ('\n' :: rest) = ['\n'] :: pieces rest := by
  simp [pieces]

/-- Another character joins the first piece, by one step of the fold. -/
theorem pieces_cons {c : Char} (h : c ≠ '\n') {rest piece : List Char}
    {more : List (List Char)} (later : pieces rest = piece :: more)
    : pieces (c :: rest) = (c :: piece) :: more := by
  simp only [pieces] at later
  simp [pieces, h, later]

/-- Every text is cut into terminated lines and a rest that holds no line feed. -/
theorem exists_pieces (text : List Char)
    : ∃ full last,
        pieces text = full ++ [last]
        ∧ (∀ piece ∈ full, Terminated piece)
        ∧ '\n' ∉ last := by
  induction text with
  | nil => exact ⟨[], [], rfl, by simp, by simp⟩
  | cons c rest ih =>
      obtain ⟨full, last, later, terminated, absent⟩ := ih
      by_cases feed : c = '\n'
      · subst feed
        refine ⟨['\n'] :: full, last, by simp [pieces_newline_cons, later], ?_, absent⟩
        intro piece member
        rcases List.mem_cons.mp member with rfl | below
        · exact ⟨[], by simp, rfl⟩
        · exact terminated piece below
      · cases full with
        | nil =>
            exact ⟨[], c :: last, pieces_cons feed later, by simp, by simp [absent, Ne.symm feed]⟩
        | cons first more =>
            refine ⟨(c :: first) :: more, last, pieces_cons feed later, ?_, absent⟩
            intro piece member
            rcases List.mem_cons.mp member with rfl | below
            · exact (terminated first (by simp)).cons feed
            · exact terminated piece (by simp [below])

/-- A text is made up of its full lines and the last one, as its pieces make it up. -/
theorem eq_flatten_append {text last : List Char} {full : List (List Char)}
    (cut : pieces text = full ++ [last])
    : text = full.flatten ++ last := by
  simpa [cut] using (flatten_pieces text).symm

/-- A text without a line feed is one piece, by induction on the text. -/
theorem pieces_of_notMem {line : List Char} (h : '\n' ∉ line)
    : pieces line = [line] := by
  induction line with
  | nil => rfl
  | cons c rest ih =>
      have absent : c ≠ '\n' ∧ '\n' ∉ rest := by simpa [eq_comm] using h
      exact pieces_cons absent.1 (ih absent.2)

/-- A line with its line feed is a piece of its own, by induction on its characters. -/
theorem pieces_terminated_append {piece : List Char} (h : Terminated piece) (rest : List Char)
    : pieces (piece ++ rest) = piece :: pieces rest := by
  obtain ⟨line, absent, rfl⟩ := h
  induction line with
  | nil => exact pieces_newline_cons rest
  | cons c line ih =>
      have parts : c ≠ '\n' ∧ '\n' ∉ line := by simpa [eq_comm] using absent
      exact pieces_cons parts.1 (ih parts.2)

/-- Terminated lines and a rest without a line feed are the pieces of their text. -/
theorem pieces_flatten_append {full : List (List Char)} {last : List Char}
    (terminated : ∀ piece ∈ full, Terminated piece) (absent : '\n' ∉ last)
    : pieces (full.flatten ++ last) = full ++ [last] := by
  induction full with
  | nil => exact pieces_of_notMem absent
  | cons first more ih =>
      rw [List.flatten_cons, List.append_assoc,
        pieces_terminated_append (terminated first (by simp)),
        ih (fun piece member => terminated piece (by simp [member])), List.cons_append]

/-- Full lines have one line feed each, by induction on the lines. -/
theorem count_flatten_terminated {full : List (List Char)}
    (terminated : ∀ piece ∈ full, Terminated piece)
    : full.flatten.count '\n' = full.length := by
  induction full with
  | nil => rfl
  | cons first more ih =>
      have later := ih (fun piece member => terminated piece (by simp [member]))
      simp only [List.flatten_cons, List.count_append, List.length_cons, later,
        (terminated first (by simp)).count]
      omega

-----------------------------------------------------------------------------------------
-- Runs of pieces
-----------------------------------------------------------------------------------------

/-- The pieces of a text from one line to another, the latter excluded. -/
def run (text : List Char) (since before : Nat) : List (List Char) :=
  ((pieces text).take before).drop since

/-- A run within the text has a piece for each of its lines, by taking and dropping. -/
theorem length_run {text : List Char} {before : Nat} (since : Nat)
    (inside : before ≤ (pieces text).length)
    : (run text since before).length = before - since := by
  rw [run, List.length_drop, List.length_take, Nat.min_eq_left inside]

/-- A run of one line is its piece, if there is one, by taking and dropping. -/
theorem run_single (text : List Char) (n : Nat)
    : run text n (n + 1) = (pieces text)[n]?.toList := by
  rw [run, List.drop_take, Nat.add_sub_cancel_left, List.take_one, List.head?_drop]

/-- A run in front of the last line has terminated lines only. -/
theorem run_of_lt {text : List Char} {before : Nat} (since : Nat)
    (h : before < (pieces text).length)
    : ∀ piece ∈ run text since before, Terminated piece := by
  obtain ⟨full, last, cut, terminated, _⟩ := exists_pieces text
  have inFull : before ≤ full.length := by simpa [cut, Nat.lt_succ_iff] using h
  intro piece member
  rw [run, cut, List.take_append_of_le_length inFull] at member
  exact terminated piece (List.mem_of_mem_take (List.mem_of_mem_drop member))

/-- A run that reaches the end has terminated lines and the last line. -/
theorem run_of_le {text : List Char} {since before : Nat} (reaches : (pieces text).length ≤ before)
    (h : since < (pieces text).length)
    : ∃ full last,
        run text since before = full ++ [last]
        ∧ full.length = (pieces text).length - 1 - since
        ∧ (∀ piece ∈ full, Terminated piece)
        ∧ '\n' ∉ last := by
  obtain ⟨full, last, cut, terminated, absent⟩ := exists_pieces text
  have inFull : since ≤ full.length := by simpa [cut, Nat.lt_succ_iff] using h
  refine ⟨full.drop since, last, ?_, by simp [cut], ?_, absent⟩
  · rw [run, List.take_of_length_le reaches, cut, List.drop_append_of_le_length inFull]
  · exact fun piece member => terminated piece (List.mem_of_mem_drop member)

/-- The last line has no line feed. -/
theorem notMem_of_last {text piece : List Char} {n : Nat} (there : (pieces text)[n]? = some piece)
    (last : (pieces text).length ≤ n + 1)
    : '\n' ∉ piece := by
  have inside := (List.getElem?_eq_some_iff.mp there).1
  obtain ⟨full, final, same, _, _, absent⟩ := run_of_le last inside
  rw [run_single, there, Option.toList_some, ← List.nil_append [piece]] at same
  have equal : [piece] = [final] := List.append_inj_right' same rfl
  obtain rfl := List.singleton_inj.mp equal
  exact absent

/-- A run is empty if it ends before it starts or starts behind the text, by taking and dropping. -/
theorem run_eq_nil {text : List Char} {since before : Nat}
    (h : before ≤ since ∨ (pieces text).length ≤ since)
    : run text since before = [] := by
  apply List.drop_eq_nil_of_le
  rw [List.length_take]
  omega

/-- Runs that meet make one run, also where they are behind the end of the text. -/
theorem run_append (text : List Char) {since middle before : Nat} (first : since ≤ middle)
    (second : middle ≤ before)
    : run text since middle ++ run text middle before = run text since before := by
  by_cases beyond : (pieces text).length ≤ since
  · rw [run_eq_nil (.inr beyond), run_eq_nil (.inr (Nat.le_trans beyond first)),
      run_eq_nil (.inr beyond), List.append_nil]
  · have shared : ((pieces text).take before).take middle = (pieces text).take middle := by
      rw [List.take_take, Nat.min_eq_left second]
    have split : (pieces text).take middle ++ run text middle before
        = (pieces text).take before := by
      rw [← shared, run, List.take_append_drop]
    have reach : since ≤ ((pieces text).take middle).length := by
      rw [List.length_take]
      omega
    calc run text since middle ++ run text middle before
      _ = ((pieces text).take middle ++ run text middle before).drop since :=
        (List.drop_append_of_le_length reach).symm
      _ = run text since before := by rw [split, run]

/-- A run has a line feed for each of its lines that is not the last line of the text. -/
theorem count_flatten_run (text : List Char) (since before : Nat)
    : (run text since before).flatten.count '\n'
      = min before ((pieces text).length - 1) - since := by
  have nonempty := List.length_pos_iff.mpr (pieces_ne_nil text)
  -- The last line of the text is the only one that a run may hold without a line feed.
  by_cases beyond : before ≤ since ∨ (pieces text).length ≤ since
  · rw [run_eq_nil beyond]
    simp only [List.flatten_nil, List.count_nil]
    omega
  · by_cases reaches : (pieces text).length ≤ before
    · obtain ⟨full, last, same, length, terminated, absent⟩ :=
        run_of_le reaches (Nat.lt_of_not_le (fun h => beyond (.inr h)))
      have inLast := List.count_eq_zero.mpr absent
      simp only [same, List.flatten_append, List.flatten_singleton, List.count_append,
        count_flatten_terminated terminated, length, inLast]
      omega
    · have front := Nat.lt_of_not_le reaches
      rw [count_flatten_terminated (run_of_lt since front), length_run since (Nat.le_of_lt front)]
      omega

/-- The pieces of a run's own text: a run in front of the last line ends behind a line feed, so
an empty last line follows it. -/
theorem pieces_flatten_run (text : List Char) {since before : Nat} (nonempty : since < before)
    (inside : before ≤ (pieces text).length)
    : pieces (run text since before).flatten
      = run text since before ++ if before < (pieces text).length then [[]] else [] := by
  by_cases front : before < (pieces text).length
  · have noFeed : '\n' ∉ ([] : List Char) := List.not_mem_nil
    simpa [front] using pieces_flatten_append (run_of_lt since front) noFeed
  · obtain ⟨full, last, same, _, terminated, absent⟩ :=
      run_of_le (Nat.le_of_not_lt front) (Nat.lt_of_lt_of_le nonempty inside)
    simpa [front, same] using pieces_flatten_append terminated absent

/-- The pieces in front of a line of the text: as many terminated lines as its number. -/
theorem take_pieces_of_lt (text : List Char) {line : Nat} (h : line < (pieces text).length)
    : ((pieces text).take line).flatten.count '\n' = line
      ∧ ∀ c, ((pieces text).take line).flatten.getLast? = some c → c = '\n' := by
  have length := length_run 0 (Nat.le_of_lt h)
  have terminated := run_of_lt 0 h
  simp only [run, List.drop_zero, Nat.sub_zero] at length terminated
  refine ⟨by rw [count_flatten_terminated terminated, length], ?_⟩
  intro c found
  rcases List.eq_nil_or_concat ((pieces text).take line) with none | ⟨init, final, split⟩
  · simp [none] at found
  · rw [List.concat_eq_append] at split
    have ends := (terminated final (by simp [split])).getLast?
    rw [split, List.flatten_append, List.flatten_singleton, List.getLast?_append, ends] at found
    exact (Option.some.inj found).symm

-----------------------------------------------------------------------------------------
-- Numbers of lines
-----------------------------------------------------------------------------------------

/-- A text whose last line, if it has one, ends in a line feed. -/
def Closed (text : List Char) : Prop :=
  text = [] ∨ text.getLast? = some '\n'

instance (text : List Char) : Decidable (Closed text) :=
  inferInstanceAs (Decidable (_ ∨ _))

/-- A text is closed if nothing stands behind its terminated lines. -/
theorem closed_flatten_append {full : List (List Char)} {last : List Char}
    (terminated : ∀ piece ∈ full, Terminated piece) (absent : '\n' ∉ last)
    : Closed (full.flatten ++ last) ↔ last = [] := by
  constructor
  · rintro (none | ends)
    · exact (List.append_eq_nil_iff.mp none).2
    · rcases List.eq_nil_or_concat last with empty | ⟨init, c, rfl⟩
      · exact empty
      · rw [List.concat_eq_append, ← List.append_assoc, List.getLast?_concat] at ends
        obtain rfl := Option.some.inj ends
        simp at absent
  · rintro rfl
    rcases List.eq_nil_or_concat full with rfl | ⟨init, piece, rfl⟩
    · exact .inl rfl
    · have ends := (terminated piece (by simp)).getLast?
      refine .inr ?_
      rw [List.append_nil, List.concat_eq_append, List.flatten_append, List.flatten_singleton,
        List.getLast?_append, ends]
      rfl

/-- A line of output ends at its line feed, and then at a carriage return in front of it. -/
theorem outputLines_line_append {line : List Char} (h : '\n' ∉ line) (rest : List Char)
    : outputLines (line ++ '\n' :: rest) = withoutLast '\r' line :: outputLines rest := by
  have split : line ++ '\n' :: rest = (line ++ ['\n']) ++ rest := by simp
  rw [outputLines, split, pieces_terminated_append ⟨line, h, rfl⟩]
  simp [outputLines, outputLine]

/-- A text has a line for each line feed, and one more if it is not closed. -/
theorem length_outputLines (text : List Char)
    : (outputLines text).length = text.count '\n' + if Closed text then 0 else 1 := by
  obtain ⟨full, last, cut, terminated, absent⟩ := exists_pieces text
  have whole : text = full.flatten ++ last := eq_flatten_append cut
  have kept : full.filter (fun piece => !piece.isEmpty) = full := by
    apply List.filter_eq_self.mpr
    intro piece member
    obtain ⟨line, _, rfl⟩ := terminated piece member
    simp
  have feeds : text.count '\n' = full.length := by
    rw [whole, List.count_append, count_flatten_terminated terminated,
      List.count_eq_zero.mpr absent, Nat.add_zero]
  have closed : Closed text ↔ last = [] := by
    rw [whole]
    exact closed_flatten_append terminated absent
  rw [outputLines, cut, List.length_map, List.filter_append, kept, List.length_append, feeds]
  cases last <;> simp [closed]

end CellRunner.Text
