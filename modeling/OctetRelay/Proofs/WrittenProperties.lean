/-
# Written files of properties

A setting is a key and a value that can stand on a line: neither has a `=`, a
LF or a blank end, and the key does not start with `#` (`IsSetting`).  A file
may be written with `key = value` for each setting, on a line of its own, and
with fillers anywhere between: lines that are blank, or a `#` behind blanks and
whatever follows it (`Written`).  Lines end at a LF, or at a CR and a LF, and
the last one may lack its end.

What was written is read (`Written.parse`), and what is read off any text are
settings (`isSetting_of_mem_parse`); so the settings of a text can be written
anew and read back (`parse_written`).

A line that counts is `front ++ '=' :: back`, in which trimming the line
touches the outer ends of `front` and `back` alone, and trimming them then does
the rest.

Source: `parse` of properties; `SPEC_FULL.md` 11, the format of the file.
-/

import OctetRelay.Proofs.LineByLine

namespace OctetRelay
namespace Properties

open Text (IsTrimmed isBlank trimChars trimStart trimEnd pieces)

/-! ## What is written -/

/-- A key and a value that a line can hold. -/
structure IsSetting (entry : String × String) : Prop where
  key : IsTrimmed entry.1.toList
  value : IsTrimmed entry.2.toList
  key_eq : '=' ∉ entry.1.toList
  value_eq : '=' ∉ entry.2.toList
  key_lf : '\n' ∉ entry.1.toList
  value_lf : '\n' ∉ entry.2.toList
  key_comment : entry.1.toList.head? ≠ some '#'

/-- The line of a setting. -/
def settingLine (entry : String × String) : String := entry.1 ++ " = " ++ entry.2

/-- A line that is blank, or a comment behind blank characters. -/
structure IsFiller (line : String) : Prop where
  lf : '\n' ∉ line.toList
  blank_or_comment : (∀ c ∈ line.toList, isBlank c = true) ∨
    ∃ indent comment, line = indent ++ "#" ++ comment ∧ ∀ c ∈ indent.toList, isBlank c = true

/-- How a line may end before the rest of a text: nothing is needed at the end of the text. -/
inductive LineEnd : String → String → Prop where
  | lf (rest : String) : LineEnd "\n" rest
  | crlf (rest : String) : LineEnd "\r\n" rest
  | last : LineEnd "" ""

/-- A text in which settings are written in order, each on a line of its own, with fillers anywhere
between. -/
inductive Written : List (String × String) → String → Prop where
  | nil : Written [] ""
  | setting {entry : String × String} {entries : List (String × String)} {ending rest : String}
    (hentry : IsSetting entry) (hending : LineEnd ending rest) (hrest : Written entries rest) :
    Written (entry :: entries) (settingLine entry ++ ending ++ rest)
  | filler {line : String} {entries : List (String × String)} {ending rest : String}
    (hline : IsFiller line) (hending : LineEnd ending rest) (hrest : Written entries rest) :
    Written entries (line ++ ending ++ rest)

/-- Settings, a line each. -/
def render : List (String × String) → String
  | [] => ""
  | entry :: entries => settingLine entry ++ "\n" ++ render entries

/-- Rendered settings are a written text. -/
theorem written_render {entries : List (String × String)} (h : ∀ entry ∈ entries, IsSetting entry) :
    Written entries (render entries) := by
  induction entries with
  | nil => exact .nil
  | cons entry entries ih =>
    have hentry := h entry List.mem_cons_self
    have hrest := ih fun other hother => h other (List.mem_cons_of_mem _ hother)
    exact .setting hentry (.lf _) hrest

/-! ## One line -/

variable {line ending rest : String} {entry : String × String}

/-- **The first line of a text counts or not without regard to the rest**, however it ends. -/
theorem significant_line (hline : '\n' ∉ line.toList) (hending : LineEnd ending rest) :
    significant (line ++ ending ++ rest) = significantRuns [line.toList] ++ significant rest := by
  rw [significant_eq, significant_eq]
  cases hending with
  | lf =>
    have htext : (line ++ "\n" ++ rest).toList = line.toList ++ '\n' :: rest.toList :=
      Text.toList_append_append line "\n" rest
    rw [htext, Text.pieces_append_sep, Text.pieces_of_not_mem hline, significantRuns_append]
  | crlf =>
    -- The CR belongs to the run, where it is trimmed away.
    have htext : (line ++ "\r\n" ++ rest).toList =
        (line.toList ++ ['\r']) ++ '\n' :: rest.toList := by
      rw [Text.toList_append_append, List.append_assoc]
      rfl
    have hlf : '\n' ∉ line.toList ++ ['\r'] := by
      simpa using hline
    have hreturn : trimChars (line.toList ++ ['\r']) = trimChars line.toList :=
      Text.trimChars_append_right (List.forall_mem_singleton.2 rfl) line.toList
    rw [htext, Text.pieces_append_sep, Text.pieces_of_not_mem hlf, significantRuns_append,
      significantRuns_cons_congr hreturn rfl]
  | last =>
    have htext : (line ++ "" ++ "").toList = line.toList := by
      rw [String.append_empty, String.append_empty]
    rw [htext, Text.pieces_of_not_mem hline]
    exact (List.append_nil _).symm

/-- A filler does not count. -/
theorem significantRuns_of_filler (h : IsFiller line) : significantRuns [line.toList] = [] := by
  have htrimmed : ¬ IsSignificant (trimChars line.toList) := by
    rcases h.blank_or_comment with hblank | ⟨indent, comment, rfl, hindent⟩
    · rw [Text.trimChars_eq_nil hblank]
      exact fun hsignificant => hsignificant.1 rfl
    · have htext : (indent ++ "#" ++ comment).toList = indent.toList ++ '#' :: comment.toList :=
        Text.toList_append_append indent "#" comment
      rw [htext, Text.trimChars_append_cons (by decide), Text.trimStart_eq_nil hindent]
      exact fun hsignificant => hsignificant.2 rfl
  exact List.filter_cons_of_neg (by simpa using htrimmed)

/-- The line of a setting, trimmed. -/
def trimmedLine (entry : String × String) : List Char :=
  trimStart (entry.1.toList ++ [' ']) ++ '=' :: trimEnd (' ' :: entry.2.toList)

/-- A line has the key, the mark between blanks, and the value. -/
theorem toList_settingLine (entry : String × String) :
    (settingLine entry).toList = (entry.1.toList ++ [' ']) ++ '=' :: ' ' :: entry.2.toList := by
  rw [settingLine, Text.toList_append_append, List.append_assoc]
  rfl

/-- Trimming a line trims its key in front and its value behind. -/
theorem trimChars_settingLine (entry : String × String) :
    trimChars (settingLine entry).toList = trimmedLine entry := by
  rw [toList_settingLine]
  exact Text.trimChars_append_cons (by decide) _ _

namespace IsSetting

variable (h : IsSetting entry)
include h

/-- A setting stands on one line. -/
theorem lf_settingLine : '\n' ∉ (settingLine entry).toList := by
  have hkey := h.key_lf
  have hvalue := h.value_lf
  rw [toList_settingLine]
  simp [hkey, hvalue]

/-- The key has no mark. -/
theorem eq_front : '=' ∉ trimStart (entry.1.toList ++ [' ']) := by
  intro hmem
  have hkey := (Text.trimStart_isSuffix _).mem hmem
  simp [h.key_eq] at hkey

/-- The value has no mark. -/
theorem eq_back : '=' ∉ trimEnd (' ' :: entry.2.toList) := by
  intro hmem
  have hvalue := (Text.trimEnd_isPrefix _).mem hmem
  simp [h.value_eq] at hvalue

/-- So the mark is the only one of its line. -/
theorem count_trimmedLine : (trimmedLine entry).count '=' = 1 :=
  Text.count_eq_one_iff.2 ⟨_, _, rfl, h.eq_front, h.eq_back⟩

/-- **The line of a setting holds it.** -/
theorem settingOf_trimmedLine : settingOf (trimmedLine entry) = entry := by
  have hblank : ∀ c ∈ [' '], isBlank c = true := List.forall_mem_singleton.2 rfl
  have hkey : trimChars (entry.1.toList ++ [' ']) = entry.1.toList :=
    (Text.trimChars_append_right hblank _).trans h.key.trimChars_eq
  have hvalue : trimChars (' ' :: entry.2.toList) = entry.2.toList :=
    (Text.trimChars_append_left hblank _).trans h.value.trimChars_eq
  rw [trimmedLine, settingOf_append h.eq_front, Text.trimChars_trimStart, Text.trimChars_trimEnd,
    hkey, hvalue, String.ofList_toList, String.ofList_toList]

/-- The line of a setting counts: it has a `=`, and a `#` could only come from the key. -/
theorem isSignificant_trimmedLine : IsSignificant (trimmedLine entry) := by
  refine ⟨List.append_ne_nil_of_right_ne_nil _ (List.cons_ne_nil _ _), ?_⟩
  unfold trimmedLine
  cases hkey : entry.1.toList with
  | nil =>
    -- Without a key the line starts with its `=`.
    have hstart : trimStart ([] ++ [' ']) = [] := by decide
    rw [hstart]
    exact fun hhead => absurd (Option.some.inj hhead) (by decide)
  | cons c rest =>
    have hc : isBlank c = false := h.key.head c (by rw [hkey]; rfl)
    have hstart : trimStart (c :: rest ++ [' ']) = c :: rest ++ [' '] :=
      Text.trimStart_of_head fun d hd => by
        obtain rfl : c = d := Option.some.inj hd
        exact hc
    have hcomment := h.key_comment
    rw [hkey] at hcomment
    rw [hstart]
    exact hcomment

/-- The line of a setting is significant. -/
theorem significantRuns_settingLine :
    significantRuns [(settingLine entry).toList] = [trimmedLine entry] := by
  rw [significantRuns, List.map_singleton, trimChars_settingLine]
  exact List.filter_cons_of_pos (by simpa using h.isSignificant_trimmedLine)

end IsSetting

/-! ## What was written is read -/

variable {entries : List (String × String)} {text : String}

/-- The lines that count in a written text are those of its settings. -/
theorem Written.significant_eq (h : Written entries text) :
    significant text = entries.map trimmedLine := by
  induction h with
  | nil => rfl
  | setting hentry hending _ ih =>
    rw [significant_line hentry.lf_settingLine hending, hentry.significantRuns_settingLine, ih]
    rfl
  | filler hline hending _ ih =>
    rw [significant_line hline.lf hending, significantRuns_of_filler hline, ih]
    rfl

/-- A written text holds settings that can be written. -/
theorem Written.isSetting (h : Written entries text) : ∀ entry ∈ entries, IsSetting entry := by
  induction h with
  | nil => exact List.forall_mem_nil _
  | setting hentry _ _ ih => exact List.forall_mem_cons.2 ⟨hentry, ih⟩
  | filler _ _ _ ih => exact ih

/-- **The settings that were written are read**, and no line is skipped. -/
theorem Written.parse_eq (h : Written entries text) : parse text = ⟨entries, []⟩ := by
  have hcount : ∀ line ∈ entries.map trimmedLine, line.count '=' = 1 := by
    rintro _ hline
    obtain ⟨entry, hentry, rfl⟩ := List.mem_map.1 hline
    exact (h.isSetting entry hentry).count_trimmedLine
  have hentries : (parse text).entries = entries := by
    rw [entries_parse, h.significant_eq, List.filter_eq_self.2 (by simpa using hcount),
      List.map_map]
    conv => rhs; rw [← List.map_id entries]
    exact List.map_congr_left fun entry hentry => (h.isSetting entry hentry).settingOf_trimmedLine
  have hskipped : (parse text).skipped = [] := by
    rw [skipped_parse, h.significant_eq, List.filter_eq_nil_iff.2 (by simpa using hcount)]
    rfl
  rw [← hentries, ← hskipped]

/-- Empty keys and values, a `#` in a value and several kinds of lines' ends. -/
example : parse "# brokers\r\n\nmetadata.broker.list = a\n = #\r\n\t#\nkey = " =
    ⟨[("metadata.broker.list", "a"), ("", "#"), ("key", "")], []⟩ := by
  decide +kernel

/-! ## What is read are settings -/

/-- **A line that counts holds a setting.** -/
theorem isSetting_settingOf {line : List Char} (htrimmed : IsTrimmed line)
    (hsignificant : IsSignificant line) (hlf : '\n' ∉ line) (hcount : line.count '=' = 1) :
    IsSetting (settingOf line) := by
  obtain ⟨front, back, rfl, hfront, hback⟩ := Text.count_eq_one_iff.1 hcount
  rw [settingOf_append hfront]
  have hfrontLf : '\n' ∉ front := fun hmem => hlf (List.mem_append_left _ hmem)
  have hbackLf : '\n' ∉ back := fun hmem =>
    hlf (List.mem_append_right _ (List.mem_cons_of_mem _ hmem))
  constructor <;> simp only [String.toList_ofList]
  case key => exact Text.isTrimmed_trimChars front
  case value => exact Text.isTrimmed_trimChars back
  case key_eq => exact mt Text.mem_of_mem_trimChars hfront
  case value_eq => exact mt Text.mem_of_mem_trimChars hback
  case key_lf => exact mt Text.mem_of_mem_trimChars hfrontLf
  case value_lf => exact mt Text.mem_of_mem_trimChars hbackLf
  case key_comment =>
    intro hhead
    -- The first character of the key is the first one of the line.
    cases front with
    | nil => cases hhead
    | cons c rest =>
      have hstart : trimStart (c :: rest) = c :: rest := Text.trimStart_of_head htrimmed.head
      rw [trimChars, hstart] at hhead
      have hfirst : '#' ∈ (c :: rest).head? := Text.head_trimEnd hhead
      exact hsignificant.2 hfirst

/-- **Every setting that is read off a text could have been written.** -/
theorem isSetting_of_mem_parse (h : entry ∈ (parse text).entries) : IsSetting entry := by
  rw [entries_parse, significant_eq] at h
  obtain ⟨line, hline, rfl⟩ := List.mem_map.1 h
  obtain ⟨hmem, hcount⟩ := List.mem_filter.1 hline
  obtain ⟨hrun, hsignificant⟩ := List.mem_filter.1 hmem
  obtain ⟨run, hpiece, rfl⟩ := List.mem_map.1 hrun
  have hlf : '\n' ∉ trimChars run :=
    mt Text.mem_of_mem_trimChars (Text.not_mem_of_mem_pieces hpiece)
  exact isSetting_settingOf (Text.isTrimmed_trimChars run) (of_decide_eq_true hsignificant) hlf
    (of_decide_eq_true hcount)

/-- **What is written is read, and what is read can be written.**  From a text in which settings are
written, with fillers anywhere, just these are read and no line is skipped; all lists of settings
can be written.  The entries of any text are settings, so they are read again from the lines that
render them. -/
theorem parse_written :
    (∀ entries text, Written entries text → parse text = ⟨entries, []⟩) ∧
    (∀ entries, (∀ entry ∈ entries, IsSetting entry) → Written entries (render entries)) ∧
    ∀ text, (∀ entry ∈ (parse text).entries, IsSetting entry) ∧
      parse (render (parse text).entries) = ⟨(parse text).entries, []⟩ := by
  refine ⟨fun entries text h => h.parse_eq, fun entries h => written_render h, fun text => ?_⟩
  have hsettings : ∀ entry ∈ (parse text).entries, IsSetting entry :=
    fun entry h => isSetting_of_mem_parse h
  exact ⟨hsettings, (written_render hsettings).parse_eq⟩

end Properties
end OctetRelay
