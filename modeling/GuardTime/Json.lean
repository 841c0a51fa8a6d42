import GuardTime.JsonString

namespace GuardTime

/-- A JSON value; a number is the literal that writes it, an object lists its members. -/
inductive Json where
  | null
  | bool (value : Bool)
  | number (literal : Text)
  | string (s : Text)
  | array (items : List Json)
  | object (members : List (Text × Json))

namespace Json

def isSpace (c : Char) : Bool := c = ' ' || c = '\t' || c = '\n' || c = '\r'

def skip (text : Text) : Text := text.dropWhile isSpace

def isNumberChar (c : Char) : Bool :=
  c.isDigit || c = '-' || c = '+' || c = '.' || c = 'e' || c = 'E'

/-- What follows one or more digits. -/
def afterDigits (text : Text) : Option Text :=
  if text.takeWhile Char.isDigit = [] then none else some (text.dropWhile Char.isDigit)

def afterInteger : Text → Option Text
  | '0' :: rest => some rest
  | text => afterDigits text

def afterFraction : Text → Option Text
  | '.' :: rest => afterDigits rest
  | text => some text

def afterExponent : Text → Option Text
  | [] => some []
  | c :: rest => if c = 'e' ∨ c = 'E' then afterDigits (signed rest).2 else some (c :: rest)

def isNumber (text : Text) : Bool :=
  ((afterInteger (if text.head? = some '-' then text.tail else text)).bind fun rest =>
    (afterFraction rest).bind afterExponent) = some []

/-- How a printer writes strings, and the space behind its commas and colons. -/
structure Style where
  raw : Char → Bool
  gap : Text
  printable : ∀ c, raw c = true → 0x20 ≤ c.toNat
  blank : gap.all isSpace = true

/-- `JSON.stringify(value)`. -/
def javaScript : Style where
  raw c := 0x20 ≤ c.toNat
  gap := []
  printable _ h := of_decide_eq_true h
  blank := rfl

/-- `json.dumps(value)`, which writes all that is not ASCII as escapes. -/
def python : Style where
  raw c := 0x20 ≤ c.toNat && c.toNat < 0x7f
  gap := [' ']
  printable _ h := of_decide_eq_true (Bool.and_eq_true_iff.mp h).1
  blank := rfl

variable (style : Style)

def printString (s : Text) : Text := '"' :: (s.flatMap (JsonString.escape style.raw) ++ ['"'])

mutual

def print : Json → Text
  | .null => ['n', 'u', 'l', 'l']
  | .bool true => ['t', 'r', 'u', 'e']
  | .bool false => ['f', 'a', 'l', 's', 'e']
  | .number literal => literal
  | .string s => printString style s
  | .array items => '[' :: (printItems items ++ [']'])
  | .object members => '\x7b' :: (printMembers members ++ ['\x7d'])

def printItems : List Json → Text
  | [] => []
  | [v] => print v
  | v :: vs => print v ++ ',' :: (style.gap ++ printItems vs)

def printMembers : List (Text × Json) → Text
  | [] => []
  | [(key, v)] => printString style key ++ ':' :: (style.gap ++ print v)
  | (key, v) :: ms =>
    printString style key ++ ':' :: (style.gap ++ (print v ++ ',' :: (style.gap ++ printMembers ms)))

end

/-- The numbers in a value are literals. -/
inductive Valid : Json → Prop where
  | null : Valid .null
  | bool (b : Bool) : Valid (.bool b)
  | number {literal : Text} : isNumber literal = true → Valid (.number literal)
  | string (s : Text) : Valid (.string s)
  | array {items : List Json} : (∀ v ∈ items, Valid v) → Valid (.array items)
  | object {members : List (Text × Json)} : (∀ m ∈ members, Valid m.2) → Valid (.object members)

def readKeyword (name : Text) (v : Json) (text : Text) : Option (Json × Text) :=
  if name <+: text then some (v, text.drop name.length) else none

def readNumber (text : Text) : Option (Json × Text) :=
  if isNumber (text.takeWhile isNumberChar) then
    some (.number (text.takeWhile isNumberChar), text.dropWhile isNumberChar)
  else none

mutual

/-- Reads a value at the start of a text, with some room for its nesting. -/
def readValue : Nat → Text → Option (Json × Text)
  | 0, _ => none
  | room + 1, text =>
    match skip text with
    | [] => none
    | c :: rest =>
      if c = '[' then
        if (skip rest).head? = some ']' then some (.array [], (skip rest).tail)
        else (readItems room rest).map fun read => (.array read.1, read.2)
      else if c = '\x7b' then
        if (skip rest).head? = some '\x7d' then some (.object [], (skip rest).tail)
        else (readMembers room rest).map fun read => (.object read.1, read.2)
      else if c = '"' then (JsonString.body rest).map fun read => (.string read.1, read.2)
      else if c = 'n' then readKeyword ['u', 'l', 'l'] .null rest
      else if c = 't' then readKeyword ['r', 'u', 'e'] (.bool true) rest
      else if c = 'f' then readKeyword ['a', 'l', 's', 'e'] (.bool false) rest
      else readNumber (c :: rest)

/-- Reads the items of an array up to its end. -/
def readItems : Nat → Text → Option (List Json × Text)
  | 0, _ => none
  | room + 1, text =>
    (readValue room text).bind fun read =>
      match skip read.2 with
      | [] => none
      | c :: rest =>
        if c = ',' then (readItems room rest).map fun others => (read.1 :: others.1, others.2)
        else if c = ']' then some ([read.1], rest)
        else none

/-- Reads the members of an object up to its end. -/
def readMembers : Nat → Text → Option (List (Text × Json) × Text)
  | 0, _ => none
  | room + 1, text =>
    match skip text with
    | [] => none
    | quote :: text =>
      if quote ≠ '"' then none
      else
        (JsonString.body text).bind fun key =>
          match skip key.2 with
          | [] => none
          | colon :: text =>
            if colon ≠ ':' then none
            else
              (readValue room text).bind fun read =>
                match skip read.2 with
                | [] => none
                | c :: rest =>
                  if c = ',' then
                    (readMembers room rest).map fun others => ((key.1, read.1) :: others.1, others.2)
                  else if c = '\x7d' then some ([(key.1, read.1)], rest)
                  else none

end

/-- `JSON.parse(text)`, or `json.loads(text)`; none where it throws. -/
def parse (text : Text) : Option Json :=
  (readValue (2 * text.length + 2) text).bind fun read => if skip read.2 = [] then some read.1 else none

/-- A natural number, as both printers write it. -/
def nat (n : Nat) : Json := .number (Nat.toDigits 10 n)

/-- A property of an object: the last member of its name. -/
def get (v : Json) (key : String) : Option Json :=
  match v with
  | .object members => (members.reverse.find? fun m => m.1 = key.toList).map Prod.snd
  | _ => none

variable {style : Style} {v : Json} {vs : List Json} {ms : List (Text × Json)} {c : Char} {room : Nat}
  {text rest used literal : Text}

theorem skip_cons (hc : isSpace c = false) (text : Text) : skip (c :: text) = c :: text := by
  simp [skip, hc]

theorem skip_gap (style : Style) (text : Text) : skip (style.gap ++ text) = skip text :=
  List.dropWhile_append_of_pos fun c hc => List.all_eq_true.mp style.blank c hc

theorem readValue_gap (style : Style) (room : Nat) (text : Text) :
    readValue room (style.gap ++ text) = readValue room text := by
  cases room with
  | zero => simp only [readValue]
  | succ room => simp only [readValue, skip_gap]

theorem readMembers_gap (style : Style) (room : Nat) (text : Text) :
    readMembers room (style.gap ++ text) = readMembers room text := by
  cases room with
  | zero => simp only [readMembers]
  | succ room => simp only [readMembers, skip_gap]

theorem readItems_gap (style : Style) (room : Nat) (text : Text) :
    readItems room (style.gap ++ text) = readItems room text := by
  cases room with
  | zero => simp only [readItems]
  | succ room => simp only [readItems, readValue_gap]

theorem isNumberChar_digit (hc : c.isDigit = true) : isNumberChar c = true := by
  simp [isNumberChar, hc]

/-- What a part of a literal takes from a text are characters of numbers. -/
def Takes (text rest : Text) : Prop := ∃ used, text = used ++ rest ∧ ∀ c ∈ used, isNumberChar c = true

theorem Takes.refl (text : Text) : Takes text text := ⟨[], rfl, by simp⟩

theorem Takes.trans {middle : Text} (h : Takes text middle) (h' : Takes middle rest) :
    Takes text rest := by
  obtain ⟨used, rfl, hused⟩ := h
  obtain ⟨used', rfl, hused'⟩ := h'
  refine ⟨used ++ used', by simp, ?_⟩
  intro c hc
  rcases List.mem_append.mp hc with hc | hc
  · exact hused c hc
  · exact hused' c hc

theorem Takes.cons (hc : isNumberChar c = true) (h : Takes text rest) : Takes (c :: text) rest := by
  have hone : Takes (c :: text) text := ⟨[c], rfl, by simpa using hc⟩
  exact hone.trans h

theorem takes_afterDigits (h : afterDigits text = some rest) : Takes text rest := by
  unfold afterDigits at h
  split at h
  next => cases h
  next =>
    obtain rfl := Option.some.inj h
    refine ⟨text.takeWhile Char.isDigit, List.takeWhile_append_dropWhile.symm, ?_⟩
    intro c hc
    exact isNumberChar_digit (List.mem_takeWhile_imp hc)

theorem takes_afterInteger (h : afterInteger text = some rest) : Takes text rest := by
  unfold afterInteger at h
  split at h
  next rest' =>
    obtain rfl := Option.some.inj h
    exact Takes.cons rfl (Takes.refl _)
  next => exact takes_afterDigits h

theorem takes_afterFraction (h : afterFraction text = some rest) : Takes text rest := by
  unfold afterFraction at h
  split at h
  next rest' => exact Takes.cons rfl (takes_afterDigits h)
  next =>
    obtain rfl := Option.some.inj h
    exact Takes.refl _

theorem takes_signed (text : Text) : Takes text (signed text).2 := by
  unfold signed
  split
  next rest' => exact Takes.cons rfl (Takes.refl _)
  next rest' => exact Takes.cons rfl (Takes.refl _)
  next => exact Takes.refl _

theorem takes_afterExponent (h : afterExponent text = some rest) : Takes text rest := by
  unfold afterExponent at h
  split at h
  next =>
    obtain rfl := Option.some.inj h
    exact Takes.refl _
  next c rest' =>
    split at h
    next he =>
      have hc : isNumberChar c = true := by
        rcases he with rfl | rfl <;> rfl
      exact Takes.cons hc ((takes_signed rest').trans (takes_afterDigits h))
    next =>
      obtain rfl := Option.some.inj h
      exact Takes.refl _

theorem isNumberChar_of_isNumber (h : isNumber literal = true) : ∀ c ∈ literal, isNumberChar c = true := by
  have h := of_decide_eq_true h
  obtain ⟨rest, hinteger, h⟩ := Option.bind_eq_some_iff.mp h
  obtain ⟨rest', hfraction, hexponent⟩ := Option.bind_eq_some_iff.mp h
  have hunsigned : Takes (if literal.head? = some '-' then literal.tail else literal) [] :=
    (takes_afterInteger hinteger).trans
      ((takes_afterFraction hfraction).trans (takes_afterExponent hexponent))
  have hall : Takes literal [] := by
    split at hunsigned
    next hminus =>
      obtain ⟨tail, rfl⟩ := List.head?_eq_some_iff.mp hminus
      exact Takes.cons rfl hunsigned
    next => exact hunsigned
  obtain ⟨used, hused, hchars⟩ := hall
  rw [List.append_nil] at hused
  exact hused ▸ hchars

theorem isNumber_nil : isNumber [] = false := rfl

theorem isNumberChar_cases (hc : isNumberChar c = true) : isSpace c = false ∧ c ≠ '[' ∧ c ≠ '\x7b' ∧
    c ≠ '"' ∧ c ≠ 'n' ∧ c ≠ 't' ∧ c ≠ 'f' := by
  have hno : ∀ d, isNumberChar d = false → c ≠ d := by
    rintro d hd rfl
    rw [hc] at hd
    cases hd
  have hspace : isSpace c = false := by
    simp only [isSpace, Bool.or_eq_false_iff, decide_eq_false_iff_not]
    exact ⟨⟨⟨hno _ rfl, hno _ rfl⟩, hno _ rfl⟩, hno _ rfl⟩
  exact ⟨hspace, hno _ rfl, hno _ rfl, hno _ rfl, hno _ rfl, hno _ rfl, hno _ rfl⟩

/-- The text behind a value does not go on with a number. -/
def Ends (rest : Text) : Prop := ∀ c, rest.head? = some c → isNumberChar c = false

theorem readNumber_append (h : isNumber literal = true) (hrest : Ends rest) :
    readNumber (literal ++ rest) = some (.number literal, rest) := by
  have hall := isNumberChar_of_isNumber h
  have hstop : rest.takeWhile isNumberChar = [] ∧ rest.dropWhile isNumberChar = rest := by
    cases rest with
    | nil => exact ⟨rfl, rfl⟩
    | cons c rest => simp [hrest c rfl]
  rw [readNumber, List.takeWhile_append_of_pos hall, List.dropWhile_append_of_pos hall, hstop.1,
    hstop.2, List.append_nil, if_pos h]

theorem readValue_number (h : isNumber literal = true) (hrest : Ends rest) :
    readValue (room + 1) (literal ++ rest) = some (.number literal, rest) := by
  have hread := readNumber_append h hrest
  cases literal with
  | nil => exact absurd h (by simp [isNumber_nil])
  | cons c literal =>
    have hc := isNumberChar_of_isNumber h c List.mem_cons_self
    obtain ⟨hspace, h1, h2, h3, h4, h5, h6⟩ := isNumberChar_cases hc
    rw [List.cons_append] at hread ⊢
    simp only [readValue, skip_cons hspace, if_neg h1, if_neg h2, if_neg h3, if_neg h4, if_neg h5,
      if_neg h6, hread]

theorem body_printString (style : Style) (s rest : Text) :
    printString style s ++ rest = '"' :: (s.flatMap (JsonString.escape style.raw) ++ '"' :: rest) := by
  simp [printString]

/-- A printed value is read as it is, with whatever stands behind it. -/
def Reads (style : Style) (v : Json) : Prop :=
  ∀ room rest, 2 * (print style v).length ≤ room → Ends rest →
    readValue room (print style v ++ rest) = some (v, rest)

theorem ends_cons (hc : isNumberChar c = false) (rest : Text) : Ends (c :: rest) := by
  intro d hd
  cases hd
  exact hc

theorem readItems_printItems (hvs : ∀ v ∈ vs, Reads style v) (hne : vs ≠ [])
    (hroom : 2 * (printItems style vs).length + 1 ≤ room) (rest : Text) :
    readItems room (printItems style vs ++ ']' :: rest) = some (vs, rest) := by
  induction vs generalizing room with
  | nil => exact absurd rfl hne
  | cons v vs ih =>
    obtain ⟨room, rfl⟩ := Nat.exists_eq_add_one_of_ne_zero (n := room) (by omega)
    have hv := hvs v List.mem_cons_self
    cases vs with
    | nil =>
      have hread := hv room (']' :: rest) (by simp only [printItems] at hroom; omega)
        (ends_cons rfl rest)
      simp only [printItems, readItems, hread, Option.bind_some]
      rfl
    | cons w vs =>
      have hlength : 2 * (print style v).length + 2 * (printItems style (w :: vs)).length + 2 ≤ room := by
        simp only [printItems, List.length_append, List.length_cons] at hroom ⊢
        omega
      have hread := hv room (',' :: (style.gap ++ (printItems style (w :: vs) ++ ']' :: rest))) (by omega)
        (ends_cons rfl _)
      have hfits : 2 * (printItems style (w :: vs)).length + 1 ≤ room := by omega
      have hrest := ih (fun u hu => hvs u (List.mem_cons_of_mem v hu)) (List.cons_ne_nil w vs) hfits
      have hprint : printItems style (v :: w :: vs) ++ ']' :: rest =
          print style v ++ ',' :: (style.gap ++ (printItems style (w :: vs) ++ ']' :: rest)) := by
        simp [printItems]
      have hcomma : ∀ text, skip (',' :: text) = ',' :: text := skip_cons rfl
      simp only [hprint, readItems, hread, Option.bind_some, hcomma, if_true, readItems_gap, hrest]
      rfl

theorem readMembers_printMembers (hms : ∀ m ∈ ms, Reads style m.2) (hne : ms ≠ [])
    (hroom : 2 * (printMembers style ms).length + 1 ≤ room) (rest : Text) :
    readMembers room (printMembers style ms ++ '\x7d' :: rest) = some (ms, rest) := by
  have hcolon : ∀ text, skip (':' :: text) = ':' :: text := skip_cons rfl
  have hcomma : ∀ text, skip (',' :: text) = ',' :: text := skip_cons rfl
  have hquote : ∀ text, skip ('"' :: text) = '"' :: text := skip_cons rfl
  have hclose : ∀ text, skip ('\x7d' :: text) = '\x7d' :: text := skip_cons rfl
  induction ms generalizing room with
  | nil => exact absurd rfl hne
  | cons m ms ih =>
    obtain ⟨key, v⟩ := m
    obtain ⟨room, rfl⟩ := Nat.exists_eq_add_one_of_ne_zero (n := room) (by omega)
    have hv : Reads style v := hms (key, v) List.mem_cons_self
    have hbody := JsonString.body_escaped style.printable key
    cases ms with
    | nil =>
      have hlength : 2 * (print style v).length ≤ room := by
        simp only [printMembers, List.length_append, List.length_cons] at hroom
        omega
      have hread := hv room ('\x7d' :: rest) hlength (ends_cons rfl rest)
      have hprint : printMembers style [(key, v)] ++ '\x7d' :: rest =
          '"' :: (key.flatMap (JsonString.escape style.raw) ++
            '"' :: ':' :: (style.gap ++ (print style v ++ '\x7d' :: rest))) := by
        simp [printMembers, printString]
      simp only [hprint, readMembers, hquote, hbody, Option.bind_some, hcolon, readValue_gap, hread,
        hclose, ne_eq, not_true_eq_false, if_false]
      rfl
    | cons m ms =>
      have hlength : 2 * (print style v).length + 2 * (printMembers style (m :: ms)).length + 2 ≤ room := by
        simp only [printMembers, List.length_append, List.length_cons] at hroom ⊢
        omega
      have hread := hv room (',' :: (style.gap ++ (printMembers style (m :: ms) ++ '\x7d' :: rest)))
        (by omega) (ends_cons rfl _)
      have hfits : 2 * (printMembers style (m :: ms)).length + 1 ≤ room := by omega
      have hrest := ih (fun u hu => hms u (List.mem_cons_of_mem _ hu)) (List.cons_ne_nil m ms) hfits
      have hprint : printMembers style ((key, v) :: m :: ms) ++ '\x7d' :: rest =
          '"' :: (key.flatMap (JsonString.escape style.raw) ++ '"' :: ':' :: (style.gap ++
            (print style v ++ ',' :: (style.gap ++ (printMembers style (m :: ms) ++ '\x7d' :: rest))))) := by
        simp [printMembers, printString]
      simp only [hprint, readMembers, hquote, hbody, Option.bind_some, hcolon, readValue_gap, hread,
        hcomma, readMembers_gap, hrest, ne_eq, not_true_eq_false, if_false, if_true]
      rfl

/-- The first character of a valid value is no space and closes nothing. -/
theorem print_cons (style : Style) (hv : Valid v) :
    ∃ c text, print style v = c :: text ∧ isSpace c = false ∧ c ≠ ']' := by
  cases hv with
  | null => exact ⟨_, _, rfl, rfl, by decide⟩
  | bool b => cases b <;> exact ⟨_, _, rfl, rfl, by decide⟩
  | @number literal h =>
    cases literal with
    | nil => exact absurd h (by simp [isNumber_nil])
    | cons c literal =>
      have hc := isNumberChar_of_isNumber h c List.mem_cons_self
      refine ⟨c, literal, rfl, (isNumberChar_cases hc).1, ?_⟩
      rintro rfl
      cases hc
  | string s => exact ⟨_, _, rfl, rfl, by decide⟩
  | array h => exact ⟨_, _, rfl, rfl, by decide⟩
  | object h => exact ⟨_, _, rfl, rfl, by decide⟩

theorem printItems_cons (style : Style) (hv : Valid v) (vs : List Json) :
    ∃ c text, printItems style (v :: vs) = c :: text ∧ isSpace c = false ∧ c ≠ ']' := by
  obtain ⟨c, text, hprint, hc⟩ := print_cons style hv
  cases vs with
  | nil => exact ⟨c, text, hprint, hc⟩
  | cons w vs => exact ⟨c, text ++ ',' :: (style.gap ++ printItems style (w :: vs)), by
      rw [printItems, hprint, List.cons_append]
      exact List.cons_ne_nil w vs, hc⟩

theorem printMembers_cons (style : Style) (m : Text × Json) (ms : List (Text × Json)) :
    ∃ text, printMembers style (m :: ms) = '"' :: text := by
  obtain ⟨key, v⟩ := m
  cases ms with
  | nil => exact ⟨_, rfl⟩
  | cons m ms => exact ⟨_, rfl⟩

theorem reads_of_valid (style : Style) (hv : Valid v) : Reads style v := by
  induction hv with
  | null =>
    intro room rest hroom hrest
    obtain ⟨room, rfl⟩ := Nat.exists_eq_add_one_of_ne_zero (n := room) (by simp [print] at hroom; omega)
    simp [print, readValue, skip_cons, isSpace, readKeyword]
  | bool b =>
    intro room rest hroom hrest
    obtain ⟨room, rfl⟩ := Nat.exists_eq_add_one_of_ne_zero (n := room) (by
      cases b <;> simp [print] at hroom <;> omega)
    cases b with
    | true => simp [print, readValue, skip_cons, isSpace, readKeyword]
    | false => simp [print, readValue, skip_cons, isSpace, readKeyword]
  | @number literal h =>
    intro room rest hroom hrest
    have hne : literal ≠ [] := by
      rintro rfl
      cases h
    have hlength := List.length_pos_iff.mpr hne
    obtain ⟨room, rfl⟩ := Nat.exists_eq_add_one_of_ne_zero (n := room) (by
      simp only [print] at hroom
      omega)
    exact readValue_number h hrest
  | string s =>
    intro room rest hroom hrest
    obtain ⟨room, rfl⟩ := Nat.exists_eq_add_one_of_ne_zero (n := room) (by
      simp [print, printString] at hroom
      omega)
    have hbody := JsonString.body_escaped style.printable s rest
    simp [print, body_printString, readValue, skip_cons, isSpace, hbody]
  | @array items hitems ih =>
    intro room rest hroom hrest
    obtain ⟨room, rfl⟩ := Nat.exists_eq_add_one_of_ne_zero (n := room) (by
      simp [print] at hroom
      omega)
    have hopen : ∀ text, skip ('[' :: text) = '[' :: text := skip_cons rfl
    cases items with
    | nil => simp [print, printItems, readValue, skip_cons, isSpace]
    | cons v vs =>
      have hfits : 2 * (printItems style (v :: vs)).length + 1 ≤ room := by
        simp only [print, List.length_cons, List.length_append] at hroom
        omega
      have hread := readItems_printItems ih (List.cons_ne_nil v vs) hfits rest
      obtain ⟨c, text, hprint, hspace, hc⟩ := printItems_cons style (hitems v List.mem_cons_self) vs
      have hhead : (skip (printItems style (v :: vs) ++ ']' :: rest)).head? ≠ some ']' := by
        rw [hprint, List.cons_append, skip_cons hspace]
        simpa using hc
      have htext : print style (.array (v :: vs)) ++ rest =
          '[' :: (printItems style (v :: vs) ++ ']' :: rest) := by simp [print]
      simp only [htext, readValue, hopen, if_true, if_neg hhead, hread]
      rfl
  | @object members hmembers ih =>
    intro room rest hroom hrest
    obtain ⟨room, rfl⟩ := Nat.exists_eq_add_one_of_ne_zero (n := room) (by
      simp [print] at hroom
      omega)
    have hopen : ∀ text, skip ('\x7b' :: text) = '\x7b' :: text := skip_cons rfl
    have hbracket : ('\x7b' : Char) ≠ '[' := by decide
    cases members with
    | nil => simp [print, printMembers, readValue, skip_cons, isSpace]
    | cons m ms =>
      have hfits : 2 * (printMembers style (m :: ms)).length + 1 ≤ room := by
        simp only [print, List.length_cons, List.length_append] at hroom
        omega
      have hread := readMembers_printMembers ih (List.cons_ne_nil m ms) hfits rest
      obtain ⟨text, hprint⟩ := printMembers_cons style m ms
      have hhead : (skip (printMembers style (m :: ms) ++ '\x7d' :: rest)).head? ≠ some '\x7d' := by
        rw [hprint, List.cons_append, skip_cons rfl]
        simp
      have htext : print style (.object (m :: ms)) ++ rest =
          '\x7b' :: (printMembers style (m :: ms) ++ '\x7d' :: rest) := by simp [print]
      simp only [htext, readValue, hopen, if_neg hbracket, if_true, if_neg hhead, hread]
      rfl

/-- A valid value is parsed as it is printed, with space around it or not. -/
theorem parse_print (style : Style) (hv : Valid v) : parse (print style v) = some v := by
  have hread := reads_of_valid style hv (2 * (print style v).length + 2) [] (by omega)
    (fun c hc => by cases hc)
  rw [List.append_nil] at hread
  rw [parse, hread]
  rfl

theorem head_toDigits {n : Nat} (h : (Nat.toDigits 10 n).head? = some '0') : n = 0 := by
  induction n using Nat.strong_induction_on with
  | _ n ih =>
    rcases Nat.lt_or_ge n 10 with hsmall | hlarge
    · rw [Nat.toDigits_of_lt_base hsmall, List.head?_cons] at h
      have hall : ∀ n < 10, some (Nat.digitChar n) = some '0' → n = 0 := by decide
      exact hall n hsmall h
    · rw [Nat.toDigits_of_base_le (by omega) hlarge,
        List.head?_append_of_ne_nil _ Nat.toDigits_ne_nil] at h
      have hzero := ih (n / 10) (by omega) h
      omega

theorem isNumber_toDigits (n : Nat) : isNumber (Nat.toDigits 10 n) = true := by
  have hall : ∀ c ∈ Nat.toDigits 10 n, c.isDigit = true := fun c hc => digit_of_toDigits hc
  have hminus : (Nat.toDigits 10 n).head? ≠ some '-' := by
    intro h
    exact Bool.false_ne_true (hall '-' (List.mem_of_head? h))
  have hinteger : afterInteger (Nat.toDigits 10 n) = some [] := by
    unfold afterInteger
    split
    next rest heq =>
      have hzero : n = 0 := head_toDigits (by rw [heq, List.head?_cons])
      subst hzero
      have hrest : ['0'] = '0' :: rest := heq
      rw [(List.cons.inj hrest).2]
    next =>
      have htake : (Nat.toDigits 10 n).takeWhile Char.isDigit = Nat.toDigits 10 n :=
        List.takeWhile_eq_self_iff.mpr hall
      have hdrop : (Nat.toDigits 10 n).dropWhile Char.isDigit = [] := List.dropWhile_eq_nil_iff.mpr hall
      rw [afterDigits, htake, hdrop, if_neg Nat.toDigits_ne_nil]
  rw [isNumber, if_neg hminus, hinteger]
  rfl

theorem valid_nat (n : Nat) : Valid (nat n) := .number (isNumber_toDigits n)

end Json

end GuardTime
