import GuardTime.ConntrackController

namespace GuardTime

namespace Conntrack

open DotEnv

/-- A text of the characters that IPv4 and IPv6 addresses have. -/
def IsAddress (text : String) : Prop :=
  text ≠ "" ∧ ∀ c ∈ text.toList, (digitOf c).isSome ∨ c = '.' ∨ c = ':'

theorem digitOf_isSome {c : Char} (h : (digitOf c).isSome) :
    c.isDigit ∨ ('a' ≤ c ∧ c ≤ 'f') ∨ ('A' ≤ c ∧ c ≤ 'F') := by
  unfold digitOf at h
  split at h
  next hdigit => exact Or.inl hdigit
  next =>
    split at h
    next hlower => exact Or.inr (Or.inl hlower)
    next =>
      split at h
      next hupper => exact Or.inr (Or.inr hupper)
      next => cases h

theorem IsAddress.char {text : String} (h : IsAddress text) {c : Char} (hc : c ∈ text.toList) :
    isSpace c = false ∧ c ≠ '-' := by
  have hplain : 46 ≤ c.toNat ∧ c.toNat ≤ 102 := by
    rcases h.2 c hc with hdigit | rfl | rfl
    · rcases digitOf_isSome hdigit with hdigit | ⟨hlow, hhigh⟩ | ⟨hlow, hhigh⟩
      · have hrange : 48 ≤ c.toNat ∧ c.toNat ≤ 57 := Char.isDigit_iff_toNat.mp hdigit
        omega
      · have hlow : 97 ≤ c.toNat := hlow
        have hhigh : c.toNat ≤ 102 := hhigh
        omega
      · have hlow : 65 ≤ c.toNat := hlow
        have hhigh : c.toNat ≤ 70 := hhigh
        omega
    · decide
    · decide
  refine ⟨?_, ?_⟩
  · simp [isSpace]
    omega
  · rintro rfl
    exact absurd hplain.1 (by decide)

theorem IsAddress.word {text : String} (h : IsAddress text) :
    text ≠ "" ∧ ∀ c ∈ text.toList, isSpace c = false := ⟨h.1, fun _ hc => (h.char hc).1⟩

/-- An entry of the table as the program prints it: what stands before the tuple of the original
direction holds no `=`, and what stands behind it is free. -/
structure TableEntry where
  protocol : Protocol
  state : Text
  original : Flow
  rest : Text
  state_plain : ∀ c ∈ state, c ≠ '=' ∧ c ≠ '\n' ∧ c ≠ '\r'
  src_address : IsAddress original.src
  dst_address : IsAddress original.dst
  rest_line : ∀ c ∈ rest, c ≠ '\n' ∧ c ≠ '\r'

def field (key : String) (value : Text) : Text := key.toList ++ '=' :: value

def TableEntry.line (e : TableEntry) : Text :=
  Protocol.name e.protocol ++ ' ' :: (e.state ++ ' ' ::
    (field "src" e.original.src.toList ++ ' ' :: (field "dst" e.original.dst.toList ++ ' ' ::
      (field "sport" (toString e.original.sport).toList ++ ' ' ::
        (field "dport" (toString e.original.dport).toList ++ ' ' :: e.rest)))))

def printed (table : List TableEntry) : Text := table.flatMap fun e => e.line ++ ['\n']

/-- The filters `-p`, and `-s` or `-d` on the original direction. -/
def TableEntry.matches (protocol : Protocol) (direction : Direction) (ipAddress : String)
    (e : TableEntry) : Bool :=
  e.protocol = protocol &&
    match direction with
    | .source => e.original.src = ipAddress
    | .destination => e.original.dst = ipAddress

def answers (table : List TableEntry) : Args → Exec
  | .list protocol direction ipAddress =>
    .finished (printed (table.filter (TableEntry.matches protocol direction ipAddress)))
  | .delete _ _ => .finished []

variable {table : List TableEntry} {e : TableEntry}

theorem firstPair_none {text : Text} (h : '=' ∉ text) (inWord : Bool) :
    firstPair inWord text = none := by
  induction text generalizing inWord with
  | nil => rfl
  | cons c rest ih =>
    have hrest := ih fun hmem => h (List.mem_cons_of_mem c hmem)
    have hpair : pairAt (c :: rest) = none := by
      rw [pairAt, List.find?_eq_none.mpr, Option.bind_none]
      intro key _ hprefix
      have hkey := List.isPrefixOf_iff_prefix.mp hprefix
      exact h (hkey.subset (List.mem_append_right _ (List.mem_singleton_self '=')))
    simp only [firstPair, hpair, hrest, ite_self]

theorem name_plain (protocol : Protocol) : '=' ∉ Protocol.name protocol := by
  cases protocol with
  | tcp => decide
  | udp => decide

theorem toList_ne_nil {text : String} (h : text ≠ "") : text.toList ≠ [] := fun hnil =>
  h (String.toList_eq_nil_iff.mp hnil)

theorem firstPair_of_pairAt {text : Text} {pair : Text × Text} (h : pairAt text = some pair) :
    firstPair false text = some pair := by
  cases text with
  | nil => cases h
  | cons c rest => simp [firstPair, h]

theorem pairAt_field {key : String} {value : Text}
    (hkey : key = "src" ∨ key = "dst" ∨ key = "sport" ∨ key = "dport") (hne : value ≠ []) :
    pairAt (field key value) = some (key.toList, value) := by
  obtain ⟨c, rest, rfl⟩ := List.exists_cons_of_ne_nil hne
  rcases hkey with rfl | rfl | rfl | rfl
  · rfl
  · rfl
  · rfl
  · rfl

def pairsOf (line : Text) : List (Text × Text) := (line.splitOnP isSpace).filterMap (firstPair false)

theorem pairsOf_word_append {word rest : Text} :
    pairsOf (word ++ ' ' :: rest) = pairsOf word ++ pairsOf rest := by
  rw [pairsOf, List.splitOnP_append_cons word rest (by decide), List.filterMap_append, pairsOf, pairsOf]

theorem pairsOf_plain {text : Text} (h : '=' ∉ text) : pairsOf text = [] := by
  rw [pairsOf, List.filterMap_eq_nil_iff]
  intro piece hpiece
  exact firstPair_none (fun hmem => h (mem_splitOnP_piece hpiece hmem).1) false

theorem pairsOf_field (key : String) {value : Text}
    (hkey : key = "src" ∨ key = "dst" ∨ key = "sport" ∨ key = "dport") (hne : value ≠ [])
    (hvalue : ∀ c ∈ value, isSpace c = false) : pairsOf (field key value) = [(key.toList, value)] := by
  have hkeychars : ∀ c ∈ key.toList, isSpace c = false := by
    rcases hkey with rfl | rfl | rfl | rfl
    all_goals simp [isSpace]
  have hword : ∀ c ∈ field key value, isSpace c = false := by
    intro c hc
    rcases List.mem_append.mp hc with hc | hc
    · exact hkeychars c hc
    · rcases List.mem_cons.mp hc with rfl | hc
      · decide
      · exact hvalue c hc
  rw [pairsOf, List.splitOnP_eq_singleton hword, List.filterMap_cons_some
    (firstPair_of_pairAt (pairAt_field hkey hne)), List.filterMap_nil]

theorem toString_word (n : Nat) :
    (toString n).toList ≠ [] ∧ ∀ c ∈ (toString n).toList, isSpace c = false := by
  refine ⟨?_, fun c hc => digit_not_space (toString_chars hc)⟩
  have htext : (toString n).toList = Nat.toDigits 10 n := Nat.toList_repr
  rw [htext]
  exact Nat.toDigits_ne_nil

theorem pairsOf_line (e : TableEntry) : pairsOf e.line =
    ("src".toList, e.original.src.toList) :: ("dst".toList, e.original.dst.toList) ::
      ("sport".toList, (toString e.original.sport).toList) ::
        ("dport".toList, (toString e.original.dport).toList) :: pairsOf e.rest := by
  have hname : pairsOf (Protocol.name e.protocol) = [] := pairsOf_plain (name_plain e.protocol)
  have hstate : pairsOf e.state = [] := pairsOf_plain fun hmem => (e.state_plain '=' hmem).1 rfl
  have hsrc := pairsOf_field "src" (by simp) (toList_ne_nil e.src_address.word.1) e.src_address.word.2
  have hdst := pairsOf_field "dst" (by simp) (toList_ne_nil e.dst_address.word.1) e.dst_address.word.2
  have hsport := pairsOf_field "sport" (by simp) (toString_word e.original.sport).1
    (toString_word e.original.sport).2
  have hdport := pairsOf_field "dport" (by simp) (toString_word e.original.dport).1
    (toString_word e.original.dport).2
  simp only [TableEntry.line, pairsOf_word_append, hname, hstate, hsrc, hdst, hsport, hdport,
    List.nil_append, List.cons_append]

theorem includes_line (e : TableEntry) : includes e.line (Protocol.name e.protocol) = true :=
  decide_eq_true (List.prefix_append _ _).isInfix

theorem parseConntrackLine_line (e : TableEntry) :
    parseConntrackLine e.protocol e.line = some e.original := by
  have hpairs : (e.line.splitOnP isSpace).filterMap (firstPair false) = _ := pairsOf_line e
  have hfour : ¬(pairsOf e.rest).length + 1 + 1 + 1 + 1 < 4 := by omega
  have hport : ∀ n, parseInt (Nat.toDigits 10 n) = some (n : ℤ) := fun n => by
    simpa using parseInt_toString n
  have hnat : ∀ n : Nat, Int.toNat? n = some n := fun _ => rfl
  simp only [parseConntrackLine, includes_line, hpairs]
  simp [hfour, hport, hnat]

theorem line_chars (e : TableEntry) : '\n' ∉ e.line ∧ '\r' ∉ e.line := by
  have hspace : ∀ {text : Text}, (∀ c ∈ text, isSpace c = false) → '\n' ∉ text ∧ '\r' ∉ text :=
    fun h => ⟨fun hmem => absurd (h _ hmem) (by decide), fun hmem => absurd (h _ hmem) (by decide)⟩
  have hname : '\n' ∉ Protocol.name e.protocol ∧ '\r' ∉ Protocol.name e.protocol := by
    cases e.protocol with
    | tcp => decide
    | udp => decide
  have hstate : '\n' ∉ e.state ∧ '\r' ∉ e.state :=
    ⟨fun hmem => (e.state_plain _ hmem).2.1 rfl, fun hmem => (e.state_plain _ hmem).2.2 rfl⟩
  have hrest : '\n' ∉ e.rest ∧ '\r' ∉ e.rest :=
    ⟨fun hmem => (e.rest_line _ hmem).1 rfl, fun hmem => (e.rest_line _ hmem).2 rfl⟩
  have hsrc := hspace e.src_address.word.2
  have hdst := hspace e.dst_address.word.2
  have hsport := hspace (toString_word e.original.sport).2
  have hdport := hspace (toString_word e.original.dport).2
  simp only [TableEntry.line, field, List.mem_append, List.mem_cons, not_or, hname, hstate, hrest, hsrc,
    hdst, hsport, hdport]
  simp only [Char.reduceEq, String.reduceToList, List.mem_cons, List.not_mem_nil, not_false_eq_true,
    or_self, and_self]

theorem splitLines_printed (table : List TableEntry) :
    splitLines (printed table) = table.map TableEntry.line ++ [[]] := by
  induction table with
  | nil => rfl
  | cons e table ih =>
    have hcons : printed (e :: table) = e.line ++ '\n' :: printed table := by
      simp [printed, List.append_assoc]
    rw [hcons, splitLines_line_append (line_chars e).1, ih, dropReturn_self (line_chars e).2]
    rfl

theorem parseConntrackLine_nil (protocol : Protocol) : parseConntrackLine protocol [] = none := by
  cases protocol with
  | tcp => rfl
  | udp => rfl

theorem listed_dryRun {config : Config} (hdry : config.dryRun = true) (exec : Args → Exec)
    (protocol : Protocol) (direction : Direction) (ipAddress : String) :
    listed config exec protocol direction ipAddress = [] := by
  have hresult : ignored config exec (.list protocol direction ipAddress) = ⟨true, []⟩ := by
    simp [ignored, hdry]
  have hlines : splitLines [] = [[]] := rfl
  simp only [listed, hresult, Bool.true_eq_false, if_false, hlines, List.filterMap_cons,
    parseConntrackLine_nil, List.filterMap_nil]

/-- A listing gives the original direction of the entries that pass its filter. -/
theorem listed_answers {config : Config} (hlive : config.dryRun = false) (table : List TableEntry)
    (protocol : Protocol) (direction : Direction) (ipAddress : String) :
    listed config (answers table) protocol direction ipAddress =
      (table.filter (TableEntry.matches protocol direction ipAddress)).map TableEntry.original := by
  have hparse : ∀ e ∈ table.filter (TableEntry.matches protocol direction ipAddress),
      parseConntrackLine protocol e.line = some e.original := by
    intro e he
    have hmatches := (List.mem_filter.mp he).2
    simp only [TableEntry.matches, Bool.and_eq_true, decide_eq_true_eq] at hmatches
    rw [← hmatches.1]
    exact parseConntrackLine_line e
  have hresult : ignored config (answers table) (.list protocol direction ipAddress) =
      ⟨true, printed (table.filter (TableEntry.matches protocol direction ipAddress))⟩ := by
    simp [ignored, hlive, answers]
  simp only [listed, hresult, Bool.true_eq_false, if_false, splitLines_printed,
    List.filterMap_append, List.filterMap_cons, parseConntrackLine_nil, List.filterMap_nil,
    List.append_nil,
    List.filterMap_map]
  rw [← List.filterMap_eq_map]
  exact List.filterMap_congr hparse

theorem connectionKey_toList (flow : Flow) : (connectionKey flow).toList =
    (flow.src.toList ++ ':' :: (toString flow.sport).toList) ++ '-' :: '>' ::
      (flow.dst.toList ++ ':' :: (toString flow.dport).toList) := by
  simp only [connectionKey, String.toList_append, List.append_assoc]
  rfl

theorem connectionKey_inj {flow flow' : Flow} (hsrc : IsAddress flow.src)
    (hsrc' : IsAddress flow'.src) (h : connectionKey flow = connectionKey flow') : flow = flow' := by
  have hdash : ∀ {f : Flow}, IsAddress f.src →
      '-' ∉ f.src.toList ++ ':' :: (toString f.sport).toList := by
    intro f hf hmem
    rcases List.mem_append.mp hmem with hmem | hmem
    · exact (hf.char hmem).2 rfl
    · rcases List.mem_cons.mp hmem with heq | hmem
      · cases heq
      · exact toString_char f.sport rfl hmem
  have htext := congrArg String.toList h
  rw [connectionKey_toList, connectionKey_toList] at htext
  obtain ⟨hfrom, hto⟩ := append_cons_first (hdash hsrc) (hdash hsrc') htext
  obtain ⟨hsrcs, hsports⟩ := append_cons_last (toString_char _ rfl) (toString_char _ rfl) hfrom
  obtain ⟨hdsts, hdports⟩ := append_cons_last (toString_char _ rfl) (toString_char _ rfl)
    (List.cons.inj hto).2
  cases flow
  cases flow'
  simp only [Flow.mk.injEq]
  exact ⟨String.toList_inj.mp hsrcs, String.toList_inj.mp hdsts,
    toString_inj (String.toList_inj.mp hsports), toString_inj (String.toList_inj.mp hdports)⟩

theorem uniqueConnections_eq {flows : List Flow} (h : ∀ flow ∈ flows, IsAddress flow.src) :
    uniqueConnections flows = flows.eraseDups := by
  have hinj : ∀ f ∈ flows, ∀ g ∈ flows, connectionKey f = connectionKey g → f = g :=
    fun f hf g hg => connectionKey_inj (h f hf) (h g hg)
  have hkeys : (flows.foldl (fun map connection => map.set (connectionKey connection) connection)
      (OrderedMap.empty : OrderedMap String Flow)).keys = (flows.map connectionKey).eraseDups :=
    OrderedMap.keys_foldl (fun _ flow => ⟨flow, rfl⟩) flows
  have hget : ∀ flow ∈ flows.eraseDups,
      (flows.foldl (fun map connection => map.set (connectionKey connection) connection)
        (OrderedMap.empty : OrderedMap String Flow)).get (connectionKey flow) = some flow := by
    intro flow hmem
    have hmem := List.mem_eraseDups.mp hmem
    rw [OrderedMap.get_foldl_set connectionKey fun connection => connection, OrderedMap.get_empty,
      Option.or_none]
    cases hfind : flows.reverse.find? fun other => connectionKey other = connectionKey flow with
    | none =>
      have hno := List.find?_eq_none.mp hfind flow (List.mem_reverse.mpr hmem)
      simp at hno
    | some found =>
      have hsame : connectionKey found = connectionKey flow := by simpa using List.find?_some hfind
      have hfound := List.mem_reverse.mp (List.mem_of_find?_eq_some hfind)
      rw [hinj found hfound flow hmem hsame]
      rfl
  calc uniqueConnections flows
      = flows.eraseDups.filterMap fun flow => (flows.foldl
          (fun map connection => map.set (connectionKey connection) connection)
          (OrderedMap.empty : OrderedMap String Flow)).get (connectionKey flow) := by
        rw [uniqueConnections, OrderedMap.values_eq, hkeys, eraseDups_map hinj, List.filterMap_map]
        rfl
    _ = flows.eraseDups.filterMap some := List.filterMap_congr hget
    _ = flows.eraseDups := List.filterMap_some

theorem address_of_listed {protocol : Protocol} {direction : Direction} {ipAddress : String}
    {flow : Flow}
    (h : flow ∈ (table.filter (TableEntry.matches protocol direction ipAddress)).map
      TableEntry.original) : IsAddress flow.src := by
  obtain ⟨e, -, rfl⟩ := List.mem_map.mp h
  exact e.src_address

theorem listTcpConnections_table {config : Config} (hlive : config.dryRun = false)
    (table : List TableEntry) {ipAddress : String} (hip : ipAddress ≠ "") :
    (listTcpConnections config (answers table) ipAddress).2 =
      some ((table.filter (TableEntry.matches .tcp .source ipAddress)).map TableEntry.original ++
        (table.filter (TableEntry.matches .tcp .destination ipAddress)).map
          TableEntry.original).eraseDups := by
  rw [listTcpConnections_value config _ hip, listed_answers hlive, listed_answers hlive,
    uniqueConnections_eq]
  exact fun flow hflow => (List.mem_append.mp hflow).elim address_of_listed address_of_listed

theorem mem_listTcpConnections {config : Config} (hlive : config.dryRun = false)
    {ipAddress : String} (hip : ipAddress ≠ "") {flow : Flow} :
    flow ∈ (listTcpConnections config (answers table) ipAddress).2.getD [] ↔
      ∃ e ∈ table, e.protocol = .tcp ∧ e.original = flow ∧
        (flow.src = ipAddress ∨ flow.dst = ipAddress) := by
  rw [listTcpConnections_table hlive table hip, Option.getD_some, List.mem_eraseDups,
    List.mem_append]
  simp only [List.mem_map, List.mem_filter, TableEntry.matches, Bool.and_eq_true, decide_eq_true_eq]
  constructor
  · rintro (⟨e, ⟨he, hprotocol, hsrc⟩, rfl⟩ | ⟨e, ⟨he, hprotocol, hdst⟩, rfl⟩)
    · exact ⟨e, he, hprotocol, rfl, Or.inl hsrc⟩
    · exact ⟨e, he, hprotocol, rfl, Or.inr hdst⟩
  · rintro ⟨e, he, hprotocol, rfl, hsrc | hdst⟩
    · exact Or.inl ⟨e, ⟨he, hprotocol, hsrc⟩, rfl⟩
    · exact Or.inr ⟨e, ⟨he, hprotocol, hdst⟩, rfl⟩

/-- The listing for the UDP signatures, unlike the one for the kill, gives what the address opened. -/
theorem listUdpConnections_own (config : Config) {ipAddress : String} {flow : Flow}
    (h : flow ∈ (listUdpConnections config (answers table) ipAddress).2.getD []) :
    flow.src = ipAddress := by
  by_cases hip : ipAddress = ""
  · simp [listUdpConnections, hip] at h
  · rw [listUdpConnections, if_neg hip, Call.andThen_some (list_value ..), Option.getD_some] at h
    cases hlive : config.dryRun with
    | true =>
      rw [listed_dryRun hlive] at h
      cases h
    | false =>
      rw [listed_answers hlive, uniqueConnections_eq fun _ => address_of_listed,
        List.mem_eraseDups] at h
      obtain ⟨e, he, rfl⟩ := List.mem_map.mp h
      have hmatches := (List.mem_filter.mp he).2
      simp only [TableEntry.matches, Bool.and_eq_true, decide_eq_true_eq] at hmatches
      exact hmatches.2

end Conntrack

end GuardTime
