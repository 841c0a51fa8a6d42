import GuardTime.AuthParams
import GuardTime.NumberText

namespace GuardTime

namespace Exposition

/-- A sample of a counter with one label, one line of a text exposition. -/
structure Sample where
  metric : Text
  label : Text
  labelValue : Text
  value : Nat
deriving DecidableEq

def Sample.text (s : Sample) : Text :=
  s.metric ++ '\x7b' :: (s.label ++ '=' :: '"' ::
    (s.labelValue ++ '"' :: '\x7d' :: ' ' :: Nat.toDigits 10 s.value))

inductive Line where
  | comment (text : Text)
  | sample (s : Sample)

def Line.text : Line → Text
  | .comment text => '#' :: text
  | .sample s => s.text

def Line.sample? : Line → Option Sample
  | .comment _ => none
  | .sample s => some s

/-- The line ends of the two kinds of platform. -/
inductive LineEnd where
  | posix
  | windows
deriving DecidableEq

def LineEnd.text : LineEnd → Text
  | .posix => ['\n']
  | .windows => ['\r', '\n']

/-- Lines in a file, each with its end. -/
def content (eol : LineEnd) (lines : List Text) : Text :=
  List.intercalate eol.text (lines ++ [[]])

def readSample (line : Text) : Option Sample :=
  match line.dropWhile (· ≠ '\x7b') with
  | [] => none
  | _ :: labelled =>
    match labelled.dropWhile (· ≠ '=') with
    | _ :: '"' :: quoted =>
      (AuthParams.readQuoted quoted).bind fun found =>
        match found.2 with
        | '\x7d' :: ' ' :: digits => (decimalNumeral digits).map fun n =>
            ⟨line.takeWhile (· ≠ '\x7b'), labelled.takeWhile (· ≠ '='), found.1, n⟩
        | _ => none
    | _ => none

def isSample : Text → Bool
  | [] => false
  | c :: _ => c ≠ '#'

/-- The samples of a text, none where a line is neither empty nor a comment nor a sample. -/
def read (text : Text) : Option (List Sample) := ((splitLines text).filter isSample).mapM readSample

/-- A sample that is read as it is printed. -/
structure Sample.Plain (s : Sample) : Prop where
  first : s.metric.head? ≠ some '#'
  metric : '\x7b' ∉ s.metric ∧ '\n' ∉ s.metric
  label : '=' ∉ s.label ∧ '\n' ∉ s.label
  labelValue : '"' ∉ s.labelValue ∧ '\\' ∉ s.labelValue ∧ '\n' ∉ s.labelValue

def Line.Plain : Line → Prop
  | .comment text => '\n' ∉ text ∧ text.getLast? ≠ some '\r'
  | .sample s => s.Plain

variable {s : Sample} {l : Line} {ls : List Line} {eol : LineEnd} {line : Text}

theorem readSample_text (hs : s.Plain) : readSample s.text = some s := by
  have hmetric : ∀ c ∈ s.metric, decide (c ≠ '\x7b') = true := fun c hc =>
    decide_eq_true fun heq => hs.metric.1 (heq ▸ hc)
  have hlabel : ∀ c ∈ s.label, decide (c ≠ '=') = true := fun c hc =>
    decide_eq_true fun heq => hs.label.1 (heq ▸ hc)
  have hquoted := AuthParams.readQuoted_append hs.labelValue.1 hs.labelValue.2.1
    ('\x7d' :: ' ' :: Nat.toDigits 10 s.value)
  simp only [readSample, Sample.text, List.dropWhile_append_of_pos hmetric,
    List.takeWhile_append_of_pos hmetric, List.dropWhile_cons, List.takeWhile_cons, ne_eq,
    not_true_eq_false, decide_false, Bool.false_eq_true, if_false,
    List.dropWhile_append_of_pos hlabel, List.takeWhile_append_of_pos hlabel, hquoted,
    Option.bind_some, decimalNumeral_toDigits, Option.map_some, List.append_nil]

theorem Sample.newline_notMem (hs : s.Plain) : '\n' ∉ s.text := by
  have hdigits : '\n' ∉ Nat.toDigits 10 s.value := fun h => digit_ne (digit_of_toDigits h) (by decide) rfl
  simp [Sample.text, hs.metric.2, hs.label.2, hs.labelValue.2.2, hdigits]

theorem Sample.getLast_text (s : Sample) : s.text.getLast? ≠ some '\r' := by
  have hne : Nat.toDigits 10 s.value ≠ [] := Nat.toDigits_ne_nil
  obtain ⟨digits, c, heq⟩ := List.eq_nil_or_concat (Nat.toDigits 10 s.value) |>.resolve_left hne
  have hc : c.isDigit = true := digit_of_toDigits (n := s.value) (by simp [heq])
  have hreturn : c ≠ '\r' := digit_ne hc (by decide)
  simp [Sample.text, heq, List.getLast?_append, List.getLast?_cons, hreturn]

theorem Line.Plain.newline_notMem (hl : l.Plain) : '\n' ∉ l.text := by
  cases l with
  | comment text => simpa [Line.text] using hl.1
  | sample s => exact Sample.newline_notMem hl

theorem Line.Plain.getLast_text (hl : l.Plain) : l.text.getLast? ≠ some '\r' := by
  cases l with
  | comment text =>
    cases text with
    | nil => simp [Line.text]
    | cons c text => simpa [Line.text] using hl.2
  | sample s => exact s.getLast_text

theorem isSample_text (hl : l.Plain) : isSample l.text = l.sample?.isSome := by
  cases l with
  | comment text => simp [Line.text, isSample, Line.sample?]
  | sample s =>
    have hs : s.Plain := hl
    have hfirst := hs.first
    cases hm : s.metric with
    | nil => simp [Line.text, Sample.text, isSample, Line.sample?, hm]
    | cons c metric =>
      rw [hm] at hfirst
      simpa [Line.text, Sample.text, isSample, Line.sample?, hm] using hfirst

theorem content_cons (line : Text) (lines : List Text) :
    content eol (line :: lines) = line ++ (eol.text ++ content eol lines) := by
  have hne : lines ++ [[]] ≠ ([] : List Text) := by simp
  rw [content, List.cons_append, List.intercalate_cons_of_ne_nil hne, List.append_assoc]
  rfl

theorem splitLines_line_content (hline : '\n' ∉ line) (hlast : line.getLast? ≠ some '\r')
    (rest : Text) : splitLines (line ++ (eol.text ++ rest)) = line :: splitLines rest := by
  cases eol with
  | posix =>
    have hdrop : dropReturn line = line := if_neg hlast
    have hsplit : splitLines (line ++ '\n' :: rest) = dropReturn line :: splitLines rest :=
      splitLines_line_append hline
    rwa [hdrop] at hsplit
  | windows =>
    have hreturn : '\n' ∉ line ++ ['\r'] := by simp [hline]
    have hdrop : dropReturn (line ++ ['\r']) = line := by simp [dropReturn]
    have hsplit : splitLines ((line ++ ['\r']) ++ '\n' :: rest) = _ := splitLines_line_append hreturn
    rw [hdrop] at hsplit
    simpa [LineEnd.text] using hsplit

/-- The lines of a file are the lines it was written with and an empty one. -/
theorem splitLines_content (hls : ∀ l ∈ ls, l.Plain) :
    splitLines (content eol (ls.map Line.text)) = ls.map Line.text ++ [[]] := by
  induction ls with
  | nil => simp [content, splitLines]
  | cons l ls ih =>
    have hl := hls l List.mem_cons_self
    rw [List.map_cons, content_cons, splitLines_line_content hl.newline_notMem hl.getLast_text,
      ih fun l' hl' => hls l' (List.mem_cons_of_mem l hl'), List.cons_append]

theorem read_content (hls : ∀ l ∈ ls, l.Plain) :
    read (content eol (ls.map Line.text)) = some (ls.filterMap Line.sample?) := by
  rw [read, splitLines_content hls]
  induction ls with
  | nil => rfl
  | cons l ls ih =>
    have hl := hls l List.mem_cons_self
    have ih := ih fun l' hl' => hls l' (List.mem_cons_of_mem l hl')
    rw [List.map_cons, List.cons_append, List.filter_cons, isSample_text hl]
    cases l with
    | comment text =>
      have hnone : Line.sample? (.comment text) = none := rfl
      rw [List.filterMap_cons_none hnone]
      exact ih
    | sample s =>
      have hsome : Line.sample? (.sample s) = some s := rfl
      have hread : readSample (Line.sample s).text = some s := readSample_text hl
      rw [List.filterMap_cons_some hsome, hsome, Option.isSome_some, if_pos rfl, List.mapM_cons, hread, ih]
      rfl

end Exposition

end GuardTime
