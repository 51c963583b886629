/-
# Files of properties, line by line

A line of a file is read without regard to the lines around it, and what it
amounts to is told by its trimmed text:

| trimmed line | amounts to |
| --- | --- |
| nothing, or `#` first | nothing |
| exactly one `=` | the texts before and behind it, trimmed, as an entry |
| none or several | a skipped line |

A line ends at a LF, or at a CR and a LF, and the last one may lack its end
(`Text.lines`).  Reading the runs between LFs comes to the same: a CR at the end
of a run is trimmed away, and a run that is empty counts for nothing
(`significant_eq`).  So a LF between two texts keeps what they say apart, and
every line that counts is accounted for (`parse_lineByLine`).

Source: `parse` of properties; `SPEC_FULL.md` 11, the format of the file.
-/

import OctetRelay.Proofs.Lookups
import OctetRelay.Proofs.Trimming

namespace OctetRelay
namespace Text

/-- The lines of a text.  A line ends at a LF, and a CR right before that belongs to the end; the
last line may lack its end. -/
def lines : List Char → List (List Char)
  | [] => []
  | '\n' :: rest => [] :: lines rest
  | '\r' :: '\n' :: rest => [] :: lines rest
  | c :: rest =>
    match lines rest with
    | [] => [[c]]
    | line :: others => (c :: line) :: others

variable {c : Char}

/-! ## Lines and the runs between LFs -/

/-- A run without the CR at its end, if there is one. -/
def dropReturn (run : List Char) : List Char :=
  if run.getLast? = some '\r' then run.dropLast else run

/-- The lines that runs between LFs make: all but the last are ended, and the last one is a line if
it is not empty. -/
def linesOfRuns : List (List Char) → List (List Char)
  | [] => []
  | [last] => if last = [] then [] else [last]
  | run :: rest => dropReturn run :: linesOfRuns rest

/-- A carriage return is dropped only at the end of a run. -/
theorem dropReturn_cons {run : List Char} (h : run ≠ [] ∨ c ≠ '\r') :
    dropReturn (c :: run) = c :: dropReturn run := by
  cases run with
  | nil =>
    have hc : c ≠ '\r' := h.resolve_left fun hne => hne rfl
    simp [dropReturn, hc]
  | cons d rest =>
    unfold dropReturn
    rw [List.getLast?_cons_cons]
    split <;> rfl

/-- A character that ends no line belongs to the first line. -/
theorem lines_cons {rest : List Char} (hlf : c ≠ '\n')
    (hcrlf : ∀ behind, c = '\r' → rest ≠ '\n' :: behind) :
    lines (c :: rest) =
      match lines rest with
      | [] => [[c]]
      | line :: others => (c :: line) :: others := by
  rw [lines]
  · exact hlf
  · exact hcrlf

/-- A run that is not the last one is a line. -/
theorem linesOfRuns_cons_cons (run next : List Char) (others : List (List Char)) :
    linesOfRuns (run :: next :: others) = dropReturn run :: linesOfRuns (next :: others) := rfl

/-- A character that ends no line belongs to the first one. -/
theorem linesOfRuns_pieces_cons {rest : List Char} (hlf : c ≠ '\n')
    (hcrlf : ∀ behind, c = '\r' → rest ≠ '\n' :: behind) :
    linesOfRuns (pieces '\n' (c :: rest)) =
      match linesOfRuns (pieces '\n' rest) with
      | [] => [[c]]
      | line :: others => (c :: line) :: others := by
  obtain ⟨run, others, hpieces, hcons⟩ := exists_pieces_cons hlf rest
  rw [hpieces, hcons]
  cases others with
  | nil => cases run <;> rfl
  | cons next others =>
    -- An empty run that is not the last one stands before a LF.
    have hkept : run ≠ [] ∨ c ≠ '\r' := by
      rw [← imp_iff_not_or]
      rintro rfl hc
      obtain ⟨behind, hrest⟩ := eq_sep_cons_of_pieces hpieces
      exact hcrlf behind hc hrest
    rw [linesOfRuns_cons_cons, linesOfRuns_cons_cons, dropReturn_cons hkept]

/-- **The lines of a text are made of the runs between its LFs.** -/
theorem lines_eq (text : List Char) : lines text = linesOfRuns (pieces '\n' text) := by
  -- A line's end opens a new run, and any other character joins the first one.
  induction text using lines.induct with
  | case1 => rfl
  | case2 rest ih =>
    rw [lines, pieces_cons_sep, ih]
    cases hpieces : pieces '\n' rest with
    | nil => exact absurd hpieces (pieces_ne_nil '\n' rest)
    | cons run others => rfl
  | case3 rest ih =>
    obtain ⟨piece, others, hpieces, hcons⟩ :=
      exists_pieces_cons (show '\r' ≠ '\n' by decide) ('\n' :: rest)
    rw [pieces_cons_sep] at hpieces
    obtain ⟨rfl, rfl⟩ := List.cons.inj hpieces
    rw [lines, ih, hcons]
    cases hrest : pieces '\n' rest with
    | nil => exact absurd hrest (pieces_ne_nil '\n' rest)
    | cons run others => rfl
  | case4 c rest hlf hcrlf _ ih => rw [lines_cons hlf hcrlf, linesOfRuns_pieces_cons hlf hcrlf, ih]
  | case5 c rest hlf hcrlf _ _ _ ih =>
    rw [lines_cons hlf hcrlf, linesOfRuns_pieces_cons hlf hcrlf, ih]

/-- The characters of three texts in a row. -/
theorem toList_append_append (front middle back : String) :
    (front ++ middle ++ back).toList = front.toList ++ (middle.toList ++ back.toList) := by
  rw [String.toList_append, String.toList_append, List.append_assoc]

/-- Under trimming a dropped carriage return does not show. -/
theorem trimChars_dropReturn (run : List Char) : trimChars (dropReturn run) = trimChars run := by
  unfold dropReturn
  split
  · rename_i hlast
    obtain ⟨front, hfront⟩ := List.getLast?_eq_some_iff.1 hlast
    have hreturn : ∀ c ∈ ['\r'], isBlank c = true := List.forall_mem_singleton.2 rfl
    rw [hfront, List.dropLast_concat, trimChars_append_right hreturn]
  · rfl

end Text

/-- Whether a trimmed line counts: it is neither empty nor a comment. -/
def Properties.IsSignificant (line : List Char) : Prop := line ≠ [] ∧ line.head? ≠ some '#'

instance : DecidablePred Properties.IsSignificant := fun line =>
  inferInstanceAs (Decidable (line ≠ [] ∧ line.head? ≠ some '#'))

/-- The texts before and behind the first `=` of a line, trimmed. -/
def Properties.settingOf (line : List Char) : String × String :=
  (String.ofList (Text.trimChars (line.takeWhile (· != '='))),
   String.ofList (Text.trimChars (line.dropWhile (· != '=')).tail))

/-- The lines of a text that count, trimmed. -/
def Properties.significant (text : String) : List (List Char) :=
  ((Text.lines text.toList).map Text.trimChars).filter (Properties.IsSignificant ·)

namespace Properties

open Text (trimChars pieces linesOfRuns)

/-- A setting is cut at its first mark, and both sides are trimmed. -/
theorem settingOf_append {front : List Char} (h : '=' ∉ front) (back : List Char) :
    settingOf (front ++ '=' :: back) =
      (String.ofList (trimChars front), String.ofList (trimChars back)) := by
  have hfront : ∀ c ∈ front, (c != '=') = true := by
    intro c hc
    exact bne_iff_ne.2 fun heq => h (heq ▸ hc)
  have htake : (front ++ '=' :: back).takeWhile (· != '=') = front := by
    rw [List.takeWhile_append_of_pos hfront]
    exact List.append_nil front
  have hdrop : (front ++ '=' :: back).dropWhile (· != '=') = '=' :: back := by
    rw [List.dropWhile_append_of_pos hfront]
    rfl
  rw [settingOf, htake, hdrop, List.tail_cons]

end Properties

/-- **What a line amounts to** is told by its trimmed text. -/
theorem PropertyLine.read_eq (text : List Char) :
    read text =
      let line := Text.trimChars text
      if Properties.IsSignificant line then
        if line.count '=' = 1 then
          .entry (Properties.settingOf line).1 (Properties.settingOf line).2
        else .skipped (String.ofList line)
      else .ignored := by
  unfold read
  generalize Text.trimChars text = line
  simp only
  split
  · rfl
  · rfl
  · rename_i hempty hcomment
    have hsignificant : Properties.IsSignificant line := by
      refine ⟨hempty, fun hhead => ?_⟩
      obtain ⟨rest, hline⟩ := List.head?_eq_some_iff.1 hhead
      exact hcomment rest hline
    rw [if_pos hsignificant]
    -- The line is cut into one piece more than it has marks.
    split
    · rename_i key value hpieces
      have hlength := Text.length_pieces '=' line
      rw [hpieces] at hlength
      have hcount : line.count '=' = 1 := by
        simp only [List.length_cons, List.length_nil] at hlength
        omega
      obtain ⟨front, back, hline, hfront, hback⟩ := Text.count_eq_one_iff.1 hcount
      rw [hline, Text.pieces_of_alone hfront hback] at hpieces
      obtain ⟨rfl, hvalue⟩ := List.cons.inj hpieces
      obtain ⟨rfl, -⟩ := List.cons.inj hvalue
      rw [if_pos hcount, hline, Properties.settingOf_append hfront]
    · rename_i hpieces
      have hcount : line.count '=' ≠ 1 := by
        intro hone
        obtain ⟨front, back, hline, hfront, hback⟩ := Text.count_eq_one_iff.1 hone
        rw [hline] at hpieces
        exact hpieces front back (Text.pieces_of_alone hfront hback)
      rw [if_neg hcount]

namespace Properties

open Text (trimChars pieces linesOfRuns)

/-- The runs of a text that count, trimmed. -/
def significantRuns (runs : List (List Char)) : List (List Char) :=
  (runs.map trimChars).filter (IsSignificant ·)

/-- Runs are significant one by one. -/
theorem significantRuns_append (runs others : List (List Char)) :
    significantRuns (runs ++ others) = significantRuns runs ++ significantRuns others := by
  rw [significantRuns, List.map_append, List.filter_append]
  rfl

/-- A run that trims to nothing does not count. -/
theorem significantRuns_cons_nil (runs : List (List Char)) :
    significantRuns ([] :: runs) = significantRuns runs := rfl

/-- Of a run only its trimmed text matters. -/
theorem significantRuns_cons_congr {run other : List Char} {runs others : List (List Char)}
    (hrun : trimChars run = trimChars other) (hruns : significantRuns runs = significantRuns others) :
    significantRuns (run :: runs) = significantRuns (other :: others) := by
  unfold significantRuns at hruns ⊢
  rw [List.map_cons, List.map_cons, hrun, List.filter_cons, List.filter_cons, hruns]

/-- **The lines that count are found in the runs between LFs.** -/
theorem significant_eq (text : String) :
    significant text = significantRuns (pieces '\n' text.toList) := by
  have hruns (run : List Char) (runs : List (List Char)) :
      significantRuns (linesOfRuns (run :: runs)) = significantRuns (run :: runs) := by
    induction runs generalizing run with
    | nil =>
      -- The last run is no line if it is empty, but then it does not count either.
      unfold linesOfRuns
      split
      · rename_i hrun
        rw [hrun, significantRuns_cons_nil]
      · rfl
    | cons next others ih =>
      rw [Text.linesOfRuns_cons_cons]
      exact significantRuns_cons_congr (Text.trimChars_dropReturn run) (ih next)
  rw [significant, Text.lines_eq]
  cases hpieces : pieces '\n' text.toList with
  | nil => exact absurd hpieces (Text.pieces_ne_nil '\n' text.toList)
  | cons run runs => exact hruns run runs

/-- What is read off the lines of a text is read off its lines that count. -/
theorem filterMap_lines {α : Type} {found? : PropertyLine → Option α}
    {wanted : List Char → Prop} [DecidablePred wanted] {made : List Char → α}
    (h : ∀ run, found? (PropertyLine.read run) =
      if IsSignificant (trimChars run) then
        if wanted (trimChars run) then some (made (trimChars run)) else none
      else none) (text : String) :
    (lines text).filterMap found? = ((significant text).filter (wanted ·)).map made := by
  rw [significant_eq, significantRuns, ← List.filterMap_eq_map, List.filterMap_filter,
    List.filterMap_filter, List.filterMap_map, lines, List.filterMap_map]
  congr 1
  funext run
  simpa only [Function.comp_apply, decide_eq_true_eq] using h run

/-- **The settings of a text** are those of its lines with exactly one `=`. -/
theorem entries_parse (text : String) :
    (parse text).entries = ((significant text).filter (·.count '=' = 1)).map settingOf := by
  refine filterMap_lines (fun run => ?_) text
  rw [PropertyLine.read_eq]
  simp only
  split
  · split <;> rfl
  · rfl

/-- **The skipped lines of a text** are those that count and have no `=` or several. -/
theorem skipped_parse (text : String) :
    (parse text).skipped = ((significant text).filter (·.count '=' ≠ 1)).map String.ofList := by
  refine filterMap_lines (fun run => ?_) text
  rw [PropertyLine.read_eq]
  simp only [ite_not]
  split
  · split <;> rfl
  · rfl

end Properties
end OctetRelay
