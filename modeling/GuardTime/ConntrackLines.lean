import GuardTime.ConntrackTable
import GuardTime.TextScan

namespace GuardTime

namespace Conntrack

open DotEnv

/-- A word that is one assignment. -/
def IsAssignment (word : Text) : Prop :=
  ∃ key ∈ KEYS, ∃ value, value ≠ [] ∧ word = key ++ '=' :: value

/-- An assignment at the end of a word, whose key stands behind no character of an identifier. -/
def EndsInPair (word left : Text) (pair : Text × Text) : Prop :=
  pair.1 ∈ KEYS ∧ pair.2 ≠ [] ∧ word = left ++ (pair.1 ++ '=' :: pair.2) ∧
    ∀ c ∈ left.getLast?, isWordChar c = false

/-- The leftmost of them. -/
def ShowsPair (word : Text) (pair : Text × Text) : Prop :=
  ∃ left, EndsInPair word left pair ∧
    ∀ left' pair', EndsInPair word left' pair' → left.length ≤ left'.length

/-- The first of the words that shows a value for a key shows a good one. -/
def FirstShown (words : List Text) (key : Text) (good : Text → Prop) : Prop :=
  ∀ front word back value, words = front ++ word :: back →
    (∀ word' ∈ front, ∀ value', ¬ShowsPair word' (key, value')) → ShowsPair word (key, value) →
      good value

/-- What the expression looks for, from a character on. -/
def pairBehind (before : Option Char) (text : Text) : Option (Text × Text) :=
  if before.any isWordChar then none else pairAt text

variable {word text value : Text} {words : List Text} {pair : Text × Text}

theorem firstPair_eq_scan (before : Option Char) :
    firstPair (before.any isWordChar) word = scan pairBehind before word := by
  induction word generalizing before with
  | nil =>
    have hnil : pairAt [] = none := rfl
    rw [firstPair, scan, pairBehind, hnil, ite_self]
  | cons c rest ih =>
    have hrest := ih (some c)
    rw [Option.any_some] at hrest
    rw [scan, firstPair, hrest, pairBehind]
    cases before.any isWordChar with
    | true => rfl
    | false =>
      cases pairAt (c :: rest) with
      | none => rfl
      | some pair => rfl

theorem pairAt_eq_some :
    pairAt text = some pair ↔ pair.1 ∈ KEYS ∧ pair.2 ≠ [] ∧ text = pair.1 ++ '=' :: pair.2 := by
  refine ⟨?_, ?_⟩
  · intro h
    obtain ⟨key, hfind, hvalue⟩ := Option.bind_eq_some_iff.mp h
    have hkey : (key ++ ['=']).isPrefixOf text = true := by simpa using List.find?_some hfind
    obtain ⟨value, rfl⟩ := List.isPrefixOf_iff_prefix.mp hkey
    have hdrop : (key ++ ['='] ++ value).drop (key.length + 1) = value :=
      List.drop_left' (by rw [List.length_append, List.length_singleton])
    simp only [hdrop] at hvalue
    split at hvalue
    next => cases hvalue
    next hne =>
      obtain rfl := Option.some.inj hvalue
      exact ⟨List.mem_of_find?_eq_some hfind, hne, List.append_assoc key ['='] value⟩
  · obtain ⟨key, value⟩ := pair
    rintro ⟨hkey, hne, rfl⟩
    simp only [KEYS, List.mem_cons, List.not_mem_nil, or_false] at hkey
    rcases hkey with rfl | rfl | rfl | rfl
    · exact pairAt_field (Or.inl rfl) hne
    · exact pairAt_field (Or.inr (Or.inl rfl)) hne
    · exact pairAt_field (Or.inr (Or.inr (Or.inl rfl))) hne
    · exact pairAt_field (Or.inr (Or.inr (Or.inr rfl))) hne

theorem pairBehind_eq_some {left right : Text} :
    pairBehind left.getLast? right = some pair ↔ EndsInPair (left ++ right) left pair := by
  have hboundary : left.getLast?.any isWordChar = false ↔ ∀ c ∈ left.getLast?, isWordChar c = false :=
    Option.any_eq_false isWordChar left.getLast?
  rw [pairBehind, EndsInPair, List.append_cancel_left_eq, ← hboundary]
  cases left.getLast?.any isWordChar with
  | true => exact ⟨nofun, fun h => nomatch h.2.2.2⟩
  | false =>
    rw [if_neg Bool.false_ne_true, pairAt_eq_some]
    exact ⟨fun h => ⟨h.1, h.2.1, h.2.2, rfl⟩, fun h => ⟨h.1, h.2.1, h.2.2.1⟩⟩

theorem firstPair_eq_some : firstPair false word = some pair ↔ ShowsPair word pair := by
  have hscan : firstPair false word = scan pairBehind none word := firstPair_eq_scan none
  rw [hscan]
  refine ⟨?_, ?_⟩
  · intro h
    obtain ⟨left, right, rfl, hmatch, hfirst⟩ := exists_leftmost h
    simp only [Option.or_none] at hmatch hfirst
    refine ⟨left, pairBehind_eq_some.mp hmatch, ?_⟩
    intro left' pair' hends
    by_contra hshort
    have hword := hends.2.2.1
    have hnone := hfirst left' _ hword (Nat.lt_of_not_le hshort)
    rw [hword] at hends
    rw [pairBehind_eq_some.mpr hends] at hnone
    cases hnone
  · rintro ⟨left, hends, hfirst⟩
    have hword := hends.2.2.1
    have hmatch := pairBehind_eq_some.mpr (hword ▸ hends)
    rw [hword]
    refine scan_of_leftmost (by rwa [Option.or_none]) ?_
    intro left' right' hword' hshort
    rw [Option.or_none]
    refine Option.eq_none_iff_forall_ne_some.mpr fun pair' h => ?_
    have hends' := pairBehind_eq_some.mp h
    rw [← hword', ← hword] at hends'
    exact absurd (hfirst left' pair' hends') (Nat.not_le_of_lt hshort)

/-- The value that words show for a key, and one that stands behind them. -/
def shownValue (words : List Text) (key own : Text) : Text :=
  (((words.filterMap (firstPair false)).find? fun pair => pair.1 = key).map Prod.snd).getD own

theorem find_own (words : List Text) (key own : Text) (rest : List (Text × Text)) :
    ((words.filterMap (firstPair false) ++ (key, own) :: rest).find? fun pair => pair.1 = key).map
      Prod.snd = some (shownValue words key own) := by
  have hhead : ((key, own) :: rest).find? (fun pair => pair.1 = key) = some (key, own) :=
    List.find?_cons_of_pos (by simp)
  rw [shownValue, List.find?_append, hhead]
  cases (words.filterMap (firstPair false)).find? fun pair => pair.1 = key with
  | none => rfl
  | some pair => rfl

theorem find_foreign {key other : Text} (h : other ≠ key) (words between : List Text) (own : Text)
    (rest : List (Text × Text)) :
    ((words.filterMap (firstPair false) ++ (other, own) ::
      (between.filterMap (firstPair false) ++ rest)).find? fun pair => pair.1 = key) =
      (((words ++ between).filterMap (firstPair false) ++ rest).find? fun pair => pair.1 = key) := by
  have hhead : ∀ tail : List (Text × Text), ((other, own) :: tail).find? (fun pair => pair.1 = key) =
      tail.find? fun pair => pair.1 = key := fun tail =>
    List.find?_cons_of_neg (by simpa using h)
  rw [List.find?_append, hhead, ← List.find?_append, List.filterMap_append, List.append_assoc]

theorem firstShown_iff {key own : Text} {good : Text → Prop} (hown : good own) :
    FirstShown words key good ↔ good (shownValue words key own) := by
  rw [shownValue, List.find?_filterMap]
  refine ⟨?_, ?_⟩
  · intro h
    cases hfind : words.find? fun word => (firstPair false word).any fun pair => pair.1 = key with
    | none => exact hown
    | some word =>
      obtain ⟨hmatch, front, back, hwords, hfront⟩ := List.find?_eq_some_iff_append.mp hfind
      obtain ⟨⟨key', value⟩, hpair, hkey⟩ := (Option.any_eq_true _ _).mp hmatch
      obtain rfl : key' = key := by simpa using hkey
      rw [Option.bind_some, hpair]
      refine h front word back value hwords ?_ (firstPair_eq_some.mp hpair)
      intro word' hword' value' hshows
      have hno := hfront word' hword'
      rw [firstPair_eq_some.mpr hshows] at hno
      simp at hno
  · intro h front word back value hwords hfront hshows
    have hpair := firstPair_eq_some.mpr hshows
    have hfind : (words.find? fun word => (firstPair false word).any fun pair => pair.1 = key) =
        some word := by
      refine List.find?_eq_some_iff_append.mpr ⟨by rw [hpair]; simp, front, back, hwords, ?_⟩
      intro word' hword'
      rw [Bool.not_eq_true', Option.any_eq_false]
      rintro ⟨key', value'⟩ hpair'
      refine decide_eq_false ?_
      rintro rfl
      exact hfront word' hword' value' (firstPair_eq_some.mp hpair')
    rw [hfind, Option.bind_some, hpair] at h
    exact h

/-- The words of a tuple, with further ones between them. -/
def tupleWords (flow : Flow) (beforeDst beforeSport beforeDport : List Text) : List Text :=
  field "src" flow.src.toList :: (beforeDst ++ field "dst" flow.dst.toList ::
    (beforeSport ++ field "sport" (toString flow.sport).toList ::
      (beforeDport ++ [field "dport" (toString flow.dport).toList])))

/-- A line with a tuple for each direction, and further words around all that it says. The ports
are numbers that a double holds. -/
structure PrintedLine where
  protocol : Protocol
  original : Flow
  reply : Flow
  further : Fin 10 → List Text
  line : Text
  src_given : original.src ≠ ""
  dst_given : original.dst ≠ ""
  ports_exact : original.sport < 2 ^ 53 ∧ original.dport < 2 ^ 53
  further_words : ∀ i, ∀ word ∈ further i, ¬IsAssignment word
  line_words : line.splitOnP isSpace = further 0 ++ Protocol.name protocol :: (further 1 ++
    (tupleWords original (further 2) (further 3) (further 4) ++ (further 5 ++
      (tupleWords reply (further 6) (further 7) (further 8) ++ further 9))))

/-- Further words that show a value for a key before the tuple does show the same one. -/
def PrintedLine.Unshadowed (l : PrintedLine) : Prop :=
  FirstShown (l.further 0 ++ l.further 1) "src".toList (· = l.original.src.toList) ∧
    FirstShown (l.further 0 ++ l.further 1 ++ l.further 2) "dst".toList (· = l.original.dst.toList) ∧
    FirstShown (l.further 0 ++ l.further 1 ++ l.further 2 ++ l.further 3) "sport".toList
      (parseInt · = some (l.original.sport : ℤ)) ∧
    FirstShown (l.further 0 ++ l.further 1 ++ l.further 2 ++ l.further 3 ++ l.further 4) "dport".toList
      (parseInt · = some (l.original.dport : ℤ))

theorem PrintedLine.pairs (l : PrintedLine) : ∃ rest,
    pairsOf l.line =
      (l.further 0 ++ l.further 1).filterMap (firstPair false) ++
        ("src".toList, l.original.src.toList) :: ((l.further 2).filterMap (firstPair false) ++
          ("dst".toList, l.original.dst.toList) :: ((l.further 3).filterMap (firstPair false) ++
            ("sport".toList, (toString l.original.sport).toList) ::
              ((l.further 4).filterMap (firstPair false) ++
                ("dport".toList, (toString l.original.dport).toList) :: rest))) := by
  have hname : firstPair false (Protocol.name l.protocol) = none :=
    firstPair_none (name_plain l.protocol) false
  have hfield : ∀ (key : String) {value : Text},
      key = "src" ∨ key = "dst" ∨ key = "sport" ∨ key = "dport" → value ≠ [] →
        firstPair false (field key value) = some (key.toList, value) := fun _ _ hkey hne =>
    firstPair_of_pairAt (pairAt_field hkey hne)
  have hsrc := hfield "src" (by simp) (toList_ne_nil l.src_given)
  have hdst := hfield "dst" (by simp) (toList_ne_nil l.dst_given)
  have hsport := hfield "sport" (by simp) (toString_word l.original.sport).1
  have hdport := hfield "dport" (by simp) (toString_word l.original.dport).1
  refine ⟨(l.further 5 ++ (tupleWords l.reply (l.further 6) (l.further 7) (l.further 8) ++
    l.further 9)).filterMap (firstPair false), ?_⟩
  rw [pairsOf, l.line_words]
  simp only [tupleWords, List.filterMap_append, List.filterMap_cons, hname, hsrc, hdst, hsport, hdport,
    List.append_assoc, List.cons_append, List.nil_append]

theorem toNat_of_parse {text : Text} {n : Nat} :
    (parseInt text).bind Int.toNat? = some n ↔ parseInt text = some (n : ℤ) := by
  cases parseInt text with
  | none => simp
  | some z =>
    cases z with
    | ofNat m => simp [Int.toNat?]
    | negSucc m => simp [Int.toNat?]

theorem parseConntrackLine_found {protocol : Protocol} {line src dst sport dport : Text} {flow : Flow}
    (hincludes : includes line (Protocol.name protocol) = true) (hfour : ¬(pairsOf line).length < 4)
    (hsrc : ((pairsOf line).find? fun pair => pair.1 = "src".toList).map Prod.snd = some src)
    (hdst : ((pairsOf line).find? fun pair => pair.1 = "dst".toList).map Prod.snd = some dst)
    (hsport : ((pairsOf line).find? fun pair => pair.1 = "sport".toList).map Prod.snd = some sport)
    (hdport : ((pairsOf line).find? fun pair => pair.1 = "dport".toList).map Prod.snd = some dport) :
    parseConntrackLine protocol line = some flow ↔ src = flow.src.toList ∧ dst = flow.dst.toList ∧
      parseInt sport = some (flow.sport : ℤ) ∧ parseInt dport = some (flow.dport : ℤ) := by
  have htext : ∀ {text : Text} {address : String}, String.ofList text = address ↔
      text = address.toList := fun {text address} =>
    ⟨fun h => by rw [← h, String.toList_ofList], fun h => by rw [h, String.ofList_toList]⟩
  unfold pairsOf at hfour hsrc hdst hsport hdport
  simp only [-String.reduceToList, parseConntrackLine, hincludes, hfour, hsrc, hdst, hsport, hdport,
    Bool.true_eq_false, if_false]
  rw [← toNat_of_parse, ← toNat_of_parse, ← htext, ← htext]
  cases (parseInt sport).bind Int.toNat? with
  | none => simp
  | some sport =>
    cases (parseInt dport).bind Int.toNat? with
    | none => simp
    | some dport =>
      cases flow
      simp only [Option.some.injEq, Flow.mk.injEq]

/-- A line is read as its original tuple exactly if no other value is shown before it. -/
theorem parseConntrackLine_printed (l : PrintedLine) :
    parseConntrackLine l.protocol l.line = some l.original ↔ l.Unshadowed := by
  have hname : Protocol.name l.protocol ∈ l.line.splitOnP isSpace := by
    rw [l.line_words]
    exact List.mem_append_right _ List.mem_cons_self
  have hincludes : includes l.line (Protocol.name l.protocol) = true :=
    decide_eq_true (splitOnP_isInfix hname)
  obtain ⟨rest, hpairs⟩ := l.pairs
  have hfour : ¬(pairsOf l.line).length < 4 := by
    rw [hpairs]
    simp only [List.length_append, List.length_cons]
    omega
  rw [parseConntrackLine_found hincludes hfour (by rw [hpairs, find_own])
    (by rw [hpairs, find_foreign (by decide), find_own])
    (by rw [hpairs, find_foreign (by decide), find_foreign (by decide), find_own])
    (by rw [hpairs, find_foreign (by decide), find_foreign (by decide), find_foreign (by decide),
      find_own])]
  refine and_congr (Iff.symm (firstShown_iff ?_)) (and_congr (Iff.symm (firstShown_iff ?_))
    (and_congr (Iff.symm (firstShown_iff ?_)) (Iff.symm (firstShown_iff ?_))))
  · rfl
  · rfl
  · exact parseInt_toString l.original.sport
  · exact parseInt_toString l.original.dport

/-- Connections are listed once each, in the order of their first appearance. -/
def ListedOnce (flows listed : List Flow) : Prop :=
  listed = flows.eraseDups ∧ listed.Nodup ∧ ∀ flow, flow ∈ listed ↔ flow ∈ flows

/-- When a line is read as the tuple it prints; connections of addresses are listed once. -/
theorem connections_parsed (l : PrintedLine) (flows : List Flow) :
    (parseConntrackLine l.protocol l.line = some l.original ↔ l.Unshadowed) ∧
      ((∀ flow ∈ flows, IsAddress flow.src ∧ IsAddress flow.dst) →
        ListedOnce flows (uniqueConnections flows)) := by
  refine ⟨parseConntrackLine_printed l, fun h => ?_⟩
  rw [uniqueConnections_eq fun flow hflow => (h flow hflow).1]
  exact ⟨rfl, nodup_eraseDups flows, fun _ => List.mem_eraseDups⟩

theorem isAssignment_iff : IsAssignment word ↔ pairAt word ≠ none := by
  rw [ne_eq, Option.eq_none_iff_forall_ne_some, not_forall]
  simp only [not_not, pairAt_eq_some]
  exact ⟨fun ⟨key, hkey, value, hvalue⟩ => ⟨(key, value), hkey, hvalue⟩,
    fun ⟨pair, hkey, hvalue⟩ => ⟨pair.1, hkey, pair.2, hvalue⟩⟩

instance : Decidable (IsAssignment word) := decidable_of_iff _ isAssignment_iff.symm

/-- A line with a key that ends in the name of another one. -/
def shadowedLine : PrintedLine where
  protocol := .tcp
  original := ⟨"10.0.0.5", "10.0.9.1", 51000, 443⟩
  reply := ⟨"10.0.9.1", "10.0.0.5", 443, 51000⟩
  further i := if i = 1 then ["6".toList, "60".toList, "orig-src=10.0.0.7".toList] else []
  line := "tcp 6 60 orig-src=10.0.0.7 src=10.0.0.5 dst=10.0.9.1 sport=51000 dport=443 ".toList ++
    "src=10.0.9.1 dst=10.0.0.5 sport=443 dport=51000".toList
  src_given := by decide
  dst_given := by decide
  ports_exact := by decide
  further_words := by decide
  line_words := by
    rw [String.toList_ofList, String.toList_ofList]
    decide +kernel

theorem shadowedLine_misread :
    parseConntrackLine shadowedLine.protocol shadowedLine.line ≠ some shadowedLine.original := by
  have hline : shadowedLine.line =
      "tcp 6 60 orig-src=10.0.0.7 src=10.0.0.5 dst=10.0.9.1 sport=51000 dport=443 ".toList ++
        "src=10.0.9.1 dst=10.0.0.5 sport=443 dport=51000".toList := rfl
  rw [hline, String.toList_ofList, String.toList_ofList]
  decide +kernel

end Conntrack

end GuardTime
