import CardCrc.Proofs.HexText.Writing
import CardCrc.Proofs.Text.Controls
import CardCrc.Report.Checksum
import CardCrc.Report.Frame

/-!
# The lines of a report

A text is made of lines when it is these lines in order with a line break behind
each of them and no other. It is made of lines in at most one way. Numbers,
bytes, names of commands and everything else that reports are put together from
contain no line break, so their lines are the ones they are written in.
-/

namespace CardCrc.Report

open HexText (write)

/-- There is no line break in a text. -/
def Unbroken (text : String) : Prop := '\n' ∉ text.toList

instance (text : String) : Decidable (Unbroken text) := inferInstanceAs (Decidable (_ ∉ _))

/-- The text is these lines in order, each of them ended by a line break. -/
structure Lined (text : String) (lines : List String) : Prop where
  /-- A line break follows each line. -/
  written : text = String.join (lines.map (· ++ "\n"))
  /-- There are no other line breaks. -/
  unbroken : ∀ line ∈ lines, Unbroken line

/-- At its line breaks a text falls into its lines and an empty rest. -/
theorem Lined.splitOn_eq {text : String} {lines : List String} (lined : Lined text lines) :
    text.toList.splitOn '\n' = lines.map String.toList ++ [[]] := by
  obtain ⟨rfl, unbroken⟩ := lined
  induction lines with
  | nil => rfl
  | cons line lines inductionHypothesis =>
    rw [List.forall_mem_cons] at unbroken
    have whole : line.toList.splitOn '\n' = [line.toList] :=
      List.splitOnP_eq_singleton fun character member =>
        beq_eq_false_iff_ne.mpr fun same => unbroken.1 (same ▸ member)
    have split (rest : List Char) : (line.toList ++ '\n' :: rest).splitOn '\n' =
        line.toList.splitOn '\n' ++ rest.splitOn '\n' :=
      List.splitOnP_append_cons _ _ (beq_self_eq_true '\n')
    have first := split (String.join (lines.map (· ++ "\n"))).toList
    rw [whole, inductionHypothesis unbroken.2] at first
    rw [List.map_cons, String.join_cons, String.toList_append, String.toList_append,
      List.append_assoc]
    exact first

/-- A text is made of lines in one way only. -/
theorem Lined.unique {text : String} {lines others : List String} (lined : Lined text lines)
    (again : Lined text others) : lines = others := by
  have same := lined.splitOn_eq.symm.trans again.splitOn_eq
  have injective : Function.Injective String.toList := fun _ _ => String.toList_injective
  exact List.map_injective_iff.mpr injective (List.append_cancel_right same)

/-! ## Putting lines together -/

/-- A line with its break is a text of one line. -/
theorem Unbroken.lined {line : String} (unbroken : Unbroken line) :
    Lined (line ++ "\n") [line] where
  written := by
    rw [List.map_singleton, String.join_cons, String.join_nil, String.append_empty]
  unbroken := List.forall_mem_singleton.mpr unbroken

/-- Two texts have the lines of the first one and then those of the second. -/
theorem Lined.append {first second : String} {lines others : List String}
    (lined : Lined first lines) (later : Lined second others) :
    Lined (first ++ second) (lines ++ others) where
  written := by rw [lined.written, later.written, List.map_append, String.join_append]
  unbroken := List.forall_mem_append.mpr ⟨lined.unbroken, later.unbroken⟩

/-- Texts between separators, up to the last one. -/
theorem intercalate_concat (separator : String) (front : List String) (last : String) :
    separator.intercalate (front ++ [last]) = String.join (front.map (· ++ separator)) ++ last := by
  induction front with
  | nil => rw [List.nil_append, String.intercalate_singleton, List.map_nil, String.join_nil,
      String.empty_append]
  | cons text front inductionHypothesis =>
    have more : front ++ [last] ≠ [] := List.append_ne_nil_of_right_ne_nil _ (List.cons_ne_nil _ _)
    rw [List.cons_append, String.intercalate_cons_of_ne_nil more, inductionHypothesis,
      List.map_cons, String.join_cons]
    simp only [String.append_assoc]

/-- Lines between line breaks, with a last break behind them. -/
theorem lined_intercalate (front : List String) (last : String)
    (unbroken : ∀ line ∈ front ++ [last], Unbroken line) :
    Lined ("\n".intercalate (front ++ [last]) ++ "\n") (front ++ [last]) where
  written := by
    rw [intercalate_concat, List.map_append, String.join_append, List.map_singleton,
      String.join_cons, String.join_nil, String.append_empty, String.append_assoc]
  unbroken := unbroken

/-! ## What lines are put together from -/

/-- There is no line break in two texts if there is none in each. -/
@[simp] theorem unbroken_append (first second : String) :
    Unbroken (first ++ second) ↔ Unbroken first ∧ Unbroken second := by
  rw [Unbroken, String.toList_append, List.mem_append, not_or]
  rfl

/-- A line break is a control character, so there is none in a clean text. -/
theorem unbroken_of_clean (text : String) (clean : Text.Clean text.toList) : Unbroken text :=
  fun member => clean '\n' member (by decide)

/-- There is no line break in a decimal numeral. -/
@[simp] theorem unbroken_decimal (number : Nat) : Unbroken (Numeral.decimal number) :=
  unbroken_of_clean _ (Numeral.clean_decimal number)

/-- There is no line break in a row of places. -/
theorem unbroken_fixed (base places number : Nat) (positive : 0 < base) (small : base ≤ 16) :
    Unbroken (String.ofList (Numeral.fixed base places number)) := by
  apply unbroken_of_clean
  rw [String.toList_ofList]
  exact Numeral.clean_fixed base places number positive small

/-- There is no line break in a byte written in hex. -/
@[simp] theorem unbroken_hexByte (byte : UInt8) : Unbroken (Numeral.hexByte byte) :=
  unbroken_of_clean _ (Numeral.clean_hexByte byte)

/-- There is no line break in written bytes. -/
@[simp] theorem unbroken_write (bytes : List UInt8) : Unbroken (write bytes) := by
  intro member
  rcases HexText.eq_space_or_isHexDigit_of_mem_write bytes '\n' member with space | digit
  · exact absurd space (by decide)
  · exact absurd digit (by decide)

/-- There is no line break in the name of a command. -/
@[simp] theorem unbroken_name (command : Command) : Unbroken command.name :=
  (by decide : ∀ command ∈ Command.all, Unbroken command.name) command command.mem_all

/-- There is no line break in a command with its number. -/
@[simp] theorem unbroken_command (command : Command) : Unbroken command.display := by
  have tag : Unbroken (if command.isAppCommand then "ACMD" else "CMD") := by
    cases command.isAppCommand <;> decide
  simp only [Command.display, unbroken_append]
  exact ⟨⟨⟨⟨tag, unbroken_decimal _⟩, by decide⟩, unbroken_name command⟩, by decide⟩

/-- There is no line break in a frame in words. -/
@[simp] theorem unbroken_frame (frame : Frame) : Unbroken frame.display := by
  have argument := unbroken_fixed 16 8 frame.argument.toNat (by decide) (by decide)
  simp only [Frame.display, unbroken_append]
  refine ⟨⟨⟨⟨?_, by decide⟩, argument⟩, by decide⟩, unbroken_hexByte _⟩
  cases frame.command? with
  | some command => exact unbroken_command command
  | none => exact (unbroken_append _ _).mpr ⟨by decide, unbroken_decimal _⟩

/-- There is no line break in a byte of any format. -/
@[simp] theorem unbroken_render (byte : UInt8) (format : ByteFormat) :
    Unbroken (format.render byte) := by
  cases format with
  | decimal => exact unbroken_decimal byte.toNat
  | hex => exact (unbroken_append _ _).mpr ⟨by decide, unbroken_hexByte byte⟩
  | binary =>
    exact (unbroken_append _ _).mpr ⟨by decide, unbroken_fixed 2 8 _ (by decide) (by decide)⟩

/-- There is no line break in the line of a step. -/
@[simp] theorem unbroken_line (step : Step) : Unbroken step.line := by
  simp only [Step.line, unbroken_append]
  exact ⟨⟨unbroken_decimal _, by decide⟩, unbroken_decimal _⟩

/-! ## Objects -/

/-- A member of an object as it is written, without the comma behind it. -/
def memberLine (member : String × Member) : String :=
  "  \"" ++ member.1 ++ "\": " ++ member.2.render

/-- There is no line break in a member that is a number. -/
theorem unbroken_number (key : String) (known : Unbroken key) (value : Nat) :
    Unbroken (memberLine (key, .number value)) := by
  simp only [memberLine, Member.render, unbroken_append]
  exact ⟨⟨⟨by decide, known⟩, by decide⟩, unbroken_decimal value⟩

/-- There is no line break in a member that is a text without one. -/
theorem unbroken_text (key : String) (known : Unbroken key) (value : String)
    (unbroken : Unbroken value) : Unbroken (memberLine (key, .text value)) := by
  simp only [memberLine, Member.render, unbroken_append]
  exact ⟨⟨⟨by decide, known⟩, by decide⟩, ⟨by decide, unbroken⟩, by decide⟩

/-- The text of an object, with the comma between two members as a part of the
first one's line. -/
theorem object_concat (front : List (String × Member)) (last : String × Member) :
    object (front ++ [last]) ++ "\n" =
      "\x7b" ++ "\n" ++ String.join ((front.map (memberLine · ++ ",")).map (· ++ "\n")) ++
        (memberLine last ++ "\n" ++ ("\x7d" ++ "\n")) := by
  -- The comma and the break between two members are one text in the object.
  have lines : object (front ++ [last]) =
      "\x7b\n" ++ ",\n".intercalate (front.map memberLine ++ [memberLine last]) ++ "\n\x7d" := by
    rw [← List.map_singleton, ← List.map_append]
    rfl
  have commas (text : String) : text ++ ",\n" = text ++ "," ++ "\n" := by
    rw [String.append_assoc]
    rfl
  have ending : "\n\x7d" = "\n" ++ "\x7d" := rfl
  have beginning : "\x7b\n" = "\x7b" ++ "\n" := rfl
  rw [lines, intercalate_concat, List.map_map, List.map_map, ending, beginning]
  simp only [Function.comp_def, commas, String.append_assoc]

/-- An object stands between two lines of braces, with a line for each member
and a comma behind all but the last. -/
theorem lined_object (front : List (String × Member)) (last : String × Member)
    (unbroken : ∀ member ∈ front ++ [last], Unbroken (memberLine member)) :
    Lined (object (front ++ [last]) ++ "\n")
      (["\x7b"] ++ front.map (memberLine · ++ ",") ++ [memberLine last, "\x7d"]) := by
  rw [List.forall_mem_append, List.forall_mem_singleton] at unbroken
  obtain ⟨inFront, atLast⟩ := unbroken
  have members : Lined (String.join ((front.map (memberLine · ++ ",")).map (· ++ "\n")))
      (front.map (memberLine · ++ ",")) := by
    refine ⟨rfl, List.forall_mem_map.mpr fun member inside => ?_⟩
    exact (unbroken_append _ _).mpr ⟨inFront member inside, by decide⟩
  have opening : Lined ("\x7b" ++ "\n") ["\x7b"] := Unbroken.lined (by decide)
  have closing : Lined ("\x7d" ++ "\n") ["\x7d"] := Unbroken.lined (by decide)
  rw [object_concat]
  exact (opening.append members).append (atLast.lined.append closing)

end CardCrc.Report
