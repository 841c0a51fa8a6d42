import GuardTime.Exposition
import GuardTime.OrderedMap

namespace GuardTime

open Exposition

/-- Counters since the last log line and since the start of the agent, by name. -/
structure Metrics where
  counters : OrderedMap Text Nat
  totals : OrderedMap Text Nat

namespace Metrics

def new : Metrics := ⟨.empty, .empty⟩

/-- `(counts[name] || 0) + by`. -/
def raised (counts : OrderedMap Text Nat) (name : Text) (n : Nat) : OrderedMap Text Nat :=
  counts.set name ((counts.get name).getD 0 + n)

def inc (m : Metrics) (name : Text) (n : Nat) : Metrics :=
  ⟨raised m.counters name n, raised m.totals name n⟩

def snapshot (m : Metrics) : OrderedMap Text Nat := m.counters

def flush (m : Metrics) : OrderedMap Text Nat × Metrics := (m.snapshot, { m with counters := .empty })

/-- The number that a key writes where an object lists it before the other keys. -/
def arrayIndex (key : Text) : Option Nat :=
  (decimalNumeral key).filter fun n => Nat.toDigits 10 n = key ∧ n < 2 ^ 32 - 1

/-- `Object.entries`: the indexes by their number, then the other keys as they were first set. -/
def objectEntries (counts : OrderedMap Text Nat) : List (Text × Nat) :=
  (counts.entries.filter fun e => (arrayIndex e.1).isSome).mergeSort
      (fun e e' => (arrayIndex e.1).getD 0 ≤ (arrayIndex e'.1).getD 0) ++
    counts.entries.filter fun e => !(arrayIndex e.1).isSome

def headerLines : List Line :=
  [.comment (" HELP guardtime_gateway_agent_actions_total Cumulative count of enforcement ".toList ++
    "actions taken, by counter name.".toList),
   .comment " TYPE guardtime_gateway_agent_actions_total counter".toList]

def metricName : Text := "guardtime_gateway_agent_actions_total".toList

def labelName : Text := "name".toList

def sampleOf (e : Text × Nat) : Sample := ⟨metricName, labelName, e.1, e.2⟩

def lines (m : Metrics) : List Line :=
  headerLines ++ (objectEntries m.totals).map fun e => .sample (sampleOf e)

/-- The file that a scraper reads, and the temporary file beside it. -/
structure Disk where
  file : Option Text
  temporary : Option Text

/-- How far `writeTextfile` gets before one of its calls throws. -/
inductive WriteOutcome where
  | noDirectory
  | torn (written : Text)
  | notRenamed
  | done
deriving DecidableEq

/-- What `writeTextfile` leaves on the disk after each of its calls. -/
def writeTextfile (m : Metrics) (eol : LineEnd) (disk : Disk) : WriteOutcome → List Disk
  | .noDirectory => []
  | .torn written => [{ disk with temporary := some written }]
  | .notRenamed => [{ disk with temporary := some (content eol (m.lines.map Line.text)) }]
  | .done =>
    [{ disk with temporary := some (content eol (m.lines.map Line.text)) },
     ⟨some (content eol (m.lines.map Line.text)), none⟩]

inductive Event where
  | inc (name : Text) (n : Nat)
  | flush
  | writeTextfile (outcome : WriteOutcome)
deriving DecidableEq

/-- The agent with the log lines it wrote and all that the file has held. -/
structure Exporter where
  metrics : Metrics
  disk : Disk
  logged : List (OrderedMap Text Nat)
  seen : List (Option Text)

namespace Exporter

def start (disk : Disk) : Exporter := ⟨.new, disk, [], [disk.file]⟩

def step (eol : LineEnd) (x : Exporter) : Event → Exporter
  | .inc name n => { x with metrics := x.metrics.inc name n }
  | .flush => { x with metrics := x.metrics.flush.2, logged := x.logged ++ [x.metrics.flush.1] }
  | .writeTextfile outcome =>
    { x with
      disk := (x.metrics.writeTextfile eol x.disk outcome).getLastD x.disk
      seen := x.seen ++ (x.metrics.writeTextfile eol x.disk outcome).map Disk.file }

def run (eol : LineEnd) (disk : Disk) (events : List Event) : Exporter :=
  events.foldl (step eol) (start disk)

end Exporter

def Event.amount (name : Text) : Event → Option Nat
  | .inc name' n => if name' = name then some n else none
  | _ => none

def amounts (name : Text) (events : List Event) : List Nat := events.filterMap (Event.amount name)

/-- What a counter has come to in a run, none where nothing was counted under its name. -/
def counted (name : Text) (events : List Event) : Option Nat :=
  if amounts name events = [] then none else some (amounts name events).sum

def exported : List Event → Option (List Event)
  | [] => none
  | event :: rest =>
    match exported rest with
    | some before => some (event :: before)
    | none => if event = .writeTextfile .done then some [] else none

/-- What a scraper finds under a name in the file. -/
def scraped (file : Option Text) (name : Text) : Option Nat :=
  (file.bind read).bind fun samples =>
    (samples.find? fun s => s.labelValue = name).map Sample.value

def PlainName (name : Text) : Prop := '"' ∉ name ∧ '\\' ∉ name ∧ '\n' ∉ name

def Event.Plain : Event → Prop
  | .inc name _ => PlainName name
  | _ => True

/-- What the log lines say of a name. -/
def Exporter.inLog (x : Exporter) (name : Text) : Nat :=
  (x.logged.map fun counts => (counts.get name).getD 0).sum

def Exporter.unlogged (x : Exporter) (name : Text) : Nat := (x.metrics.snapshot.get name).getD 0

/-- The file as it is written after a run. -/
def written (eol : LineEnd) (disk : Disk) (events : List Event) : Option Text :=
  some (content eol ((Exporter.run eol disk events).metrics.lines.map Line.text))

variable {eol : LineEnd} {disk : Disk} {events before after : List Event} {event : Event}
  {name : Text} {n : Nat} {m : Metrics} {counts : OrderedMap Text Nat}

theorem get_raised (counts : OrderedMap Text Nat) (name name' : Text) (n : Nat) :
    (raised counts name n).get name' =
      if name' = name then some ((counts.get name).getD 0 + n) else counts.get name' :=
  counts.get_set name _ name'

theorem perm_objectEntries : (objectEntries counts).Perm counts.entries := by
  have hsort : (objectEntries counts).Perm
      (counts.entries.filter (fun e => (arrayIndex e.1).isSome) ++
        counts.entries.filter fun e => !(arrayIndex e.1).isSome) :=
    List.Perm.append_right _ (List.mergeSort_perm _ _)
  exact hsort.trans (List.filter_append_perm _ counts.entries)

theorem find_objectEntries (name : Text) :
    ((objectEntries counts).find? fun e => e.1 = name).map Prod.snd = counts.get name := by
  have hperm : (objectEntries counts).Perm counts.entries := perm_objectEntries
  have hnodup : ((objectEntries counts).map Prod.fst).Nodup :=
    (hperm.map Prod.fst).nodup_iff.mpr counts.nodup
  have hfound : ∀ n, ((objectEntries counts).find? fun e => e.1 = name).map Prod.snd = some n ↔
      counts.get name = some n := by
    intro n
    have hmem : (name, n) ∈ objectEntries counts ↔ (name, n) ∈ counts.entries := hperm.mem_iff
    rw [OrderedMap.mem_entries] at hmem
    rw [← hmem]
    exact (OrderedMap.mem_entries (m := ⟨objectEntries counts, hnodup⟩)).symm
  exact Option.ext hfound

theorem plain_sampleOf (hname : PlainName name) (n : Nat) :
    (sampleOf (name, n)).Plain := by
  have hfirst : metricName.head? ≠ some '#' := by decide +kernel
  have hmetric : '\x7b' ∉ metricName ∧ '\n' ∉ metricName := by decide +kernel
  have hlabel : '=' ∉ labelName ∧ '\n' ∉ labelName := by decide +kernel
  exact ⟨hfirst, hmetric, hlabel, hname⟩

/-- A scraper finds the totals in a file that was written with them. -/
theorem scraped_content (hplain : ∀ name, (m.totals.get name).isSome → PlainName name) (name : Text) :
    scraped (some (content eol (m.lines.map Line.text))) name = m.totals.get name := by
  have hheader : ∀ l ∈ headerLines, l.Plain := by
    intro l hl
    simp only [headerLines, List.mem_cons, List.not_mem_nil, or_false] at hl
    rcases hl with rfl | rfl
    · rw [String.toList_ofList, String.toList_ofList]
      exact ⟨by simp, by simp⟩
    · rw [String.toList_ofList]
      exact ⟨by simp, by simp⟩
  have hlines : ∀ l ∈ m.lines, l.Plain := by
    intro l hl
    rcases List.mem_append.mp hl with hl | hl
    · exact hheader l hl
    · obtain ⟨e, he, rfl⟩ := List.mem_map.mp hl
      have hkey : (m.totals.get e.1).isSome :=
        Option.isSome_iff_exists.mpr ⟨e.2, OrderedMap.mem_entries.mp (perm_objectEntries.mem_iff.mp he)⟩
      exact plain_sampleOf (hplain e.1 hkey) e.2
  have hsamples : m.lines.filterMap Line.sample? = (objectEntries m.totals).map sampleOf := by
    have hnone : headerLines.filterMap Line.sample? = [] := rfl
    rw [lines, List.filterMap_append, hnone, List.nil_append, List.filterMap_map,
      ← List.filterMap_eq_map]
    rfl
  have hvalue : Sample.value ∘ sampleOf = Prod.snd := rfl
  rw [scraped, Option.bind_some, read_content hlines, Option.bind_some, hsamples, List.find?_map,
    Option.map_map, hvalue]
  exact find_objectEntries name

theorem amounts_concat (name : Text) (events : List Event) (event : Event) :
    amounts name (events ++ [event]) = amounts name events ++ (event.amount name).toList := by
  rw [amounts, List.filterMap_append]
  cases h : event.amount name with
  | none => simp [amounts, h]
  | some n => simp [amounts, h]

theorem counted_concat (name : Text) (events : List Event) (event : Event) :
    counted name (events ++ [event]) =
      match event.amount name with
      | none => counted name events
      | some n => some ((counted name events).getD 0 + n) := by
  rw [counted, amounts_concat]
  cases event.amount name with
  | none => simp [counted]
  | some n =>
    by_cases hnil : amounts name events = []
    · simp [counted, hnil]
    · simp [counted, hnil]

theorem run_concat (eol : LineEnd) (disk : Disk) (events : List Event) (event : Event) :
    Exporter.run eol disk (events ++ [event]) = (Exporter.run eol disk events).step eol event := by
  rw [Exporter.run, List.foldl_append]
  rfl

theorem totals_run (events : List Event) (name : Text) :
    (Exporter.run eol disk events).metrics.totals.get name = counted name events := by
  induction events using List.reverseRecOn with
  | nil => rfl
  | append_singleton events event ih =>
    rw [run_concat, counted_concat]
    cases event with
    | inc name' n =>
      have hget := get_raised (Exporter.run eol disk events).metrics.totals name' name n
      simp only [Exporter.step, inc, Event.amount, hget]
      by_cases hname : name = name'
      · subst hname
        simp [ih]
      · simp [hname, Ne.symm hname, ih]
    | flush => simpa [Exporter.step, flush, Event.amount] using ih
    | writeTextfile outcome => simpa [Exporter.step, Event.amount] using ih

/-- What the log lines say of a name adds up, with what is not logged yet, to its total. -/
theorem logged_run (events : List Event) (name : Text) :
    (Exporter.run eol disk events).inLog name + (Exporter.run eol disk events).unlogged name =
      (counted name events).getD 0 := by
  rw [Exporter.inLog, Exporter.unlogged, snapshot]
  induction events using List.reverseRecOn with
  | nil => rfl
  | append_singleton events event ih =>
    rw [run_concat, counted_concat]
    cases event with
    | inc name' n =>
      have hget := get_raised (Exporter.run eol disk events).metrics.counters name' name n
      simp only [Exporter.step, inc, Event.amount, hget]
      by_cases hname : name = name'
      · subst hname
        simp only [if_true, Option.getD_some]
        omega
      · simpa [hname, Ne.symm hname] using ih
    | flush =>
      simp only [Exporter.step, flush, snapshot, Event.amount, List.map_append, List.map_singleton,
        List.sum_append, List.sum_singleton, OrderedMap.get_empty, Option.getD_none]
      omega
    | writeTextfile outcome => simpa [Exporter.step, Event.amount] using ih

theorem exported_concat (events : List Event) (event : Event) :
    exported (events ++ [event]) =
      if event = .writeTextfile .done then some events else exported events := by
  induction events with
  | nil => rfl
  | cons first rest ih =>
    rw [List.cons_append, exported, ih]
    by_cases hdone : event = .writeTextfile .done
    · simp [hdone]
    · simp [hdone, exported]

theorem counted_append (h : counted name before = some n) (after : List Event) :
    ∃ n', n ≤ n' ∧ counted name (before ++ after) = some n' := by
  have happend : amounts name (before ++ after) = amounts name before ++ amounts name after :=
    List.filterMap_append
  rw [counted] at h
  split at h
  next => cases h
  next hne =>
    cases Option.some.inj h
    have hne' : amounts name (before ++ after) ≠ [] := by simp [happend, hne]
    refine ⟨_, ?_, if_neg hne'⟩
    rw [happend, List.sum_append]
    omega

theorem plain_of_counted (hplain : ∀ event ∈ events, event.Plain)
    (h : (counted name events).isSome) : PlainName name := by
  have hne : amounts name events ≠ [] := by
    intro hnil
    simp [counted, hnil] at h
  obtain ⟨n, hn⟩ := List.exists_mem_of_ne_nil _ hne
  obtain ⟨event, hevent, hamount⟩ := List.mem_filterMap.mp hn
  cases event with
  | inc name' n' =>
    have hname : name' = name := by
      by_contra hne
      simp [Event.amount, hne] at hamount
    exact hname ▸ hplain _ hevent
  | flush => cases hamount
  | writeTextfile outcome => cases hamount

theorem scraped_written (hplain : ∀ event ∈ events, event.Plain) (name : Text) :
    scraped (written eol disk events) name = counted name events := by
  rw [written, scraped_content _ name, totals_run]
  intro name' h
  rw [totals_run] at h
  exact plain_of_counted hplain h

/-- What a file has held in a run: what it held before, then what was written after some of the
run's prefixes, in their order. -/
structure History (eol : LineEnd) (disk : Disk) (events : List Event) (seen : List (Option Text))
    (file : Option Text) (final : Option (List Event)) (untouched : Nat)
    (moments : List (List Event)) : Prop where
  seen : seen = List.replicate (untouched + 1) disk.file ++ moments.map (written eol disk)
  ordered : moments.Pairwise (· <+: ·)
  before : ∀ moment ∈ moments, moment <+: events
  last : moments.getLast? = final
  file : file = (final.map (written eol disk)).getD disk.file

variable {seen : List (Option Text)} {file : Option Text} {final : Option (List Event)}
  {untouched : Nat} {moments : List (List Event)}

theorem History.still (h : History eol disk events seen file final untouched moments) :
    ∃ untouched' moments', History eol disk events (seen ++ [file]) file final untouched' moments' := by
  cases hlast : moments.getLast? with
  | none =>
    have hnil : moments = [] := List.getLast?_eq_none_iff.mp hlast
    have hfile : file = disk.file := by
      rw [h.file, ← h.last, hlast]
      rfl
    have hseen : seen ++ [file] = List.replicate (untouched + 1 + 1) disk.file ++
        moments.map (written eol disk) := by
      rw [h.seen, hfile, hnil, List.replicate_succ' (n := untouched + 1)]
      simp
    exact ⟨untouched + 1, moments, hseen, h.ordered, h.before, h.last, h.file⟩
  | some moment =>
    have hmem : moment ∈ moments := List.mem_of_getLast? hlast
    have hfile : file = written eol disk moment := by
      rw [h.file, ← h.last, hlast]
      rfl
    have hseen : seen ++ [file] = List.replicate (untouched + 1) disk.file ++
        (moments ++ [moment]).map (written eol disk) := by
      rw [h.seen, hfile, List.map_append, List.map_singleton, List.append_assoc]
    have hordered : (moments ++ [moment]).Pairwise (· <+: ·) := by
      refine List.pairwise_append.mpr ⟨h.ordered, List.pairwise_singleton _ _, ?_⟩
      intro earlier hearlier last' hlast'
      rw [List.mem_singleton.mp hlast']
      obtain ⟨front, hfront⟩ := List.getLast?_eq_some_iff.mp hlast
      rw [hfront] at hearlier
      have hpairs := h.ordered
      rw [hfront] at hpairs
      rcases List.mem_append.mp hearlier with hin | hin
      · exact (List.pairwise_append.mp hpairs).2.2 earlier hin moment (List.mem_singleton.mpr rfl)
      · rw [List.mem_singleton.mp hin]
    have hbefore : ∀ moment' ∈ moments ++ [moment], moment' <+: events := by
      intro moment' hin
      rcases List.mem_append.mp hin with hin | hin
      · exact h.before moment' hin
      · exact h.before moment' (List.mem_singleton.mp hin ▸ hmem)
    have hnew : (moments ++ [moment]).getLast? = final := by
      rw [List.getLast?_concat, ← h.last, hlast]
    exact ⟨untouched, moments ++ [moment], hseen, hordered, hbefore, hnew, h.file⟩

theorem History.write (h : History eol disk events seen file final untouched moments) :
    History eol disk events (seen ++ [written eol disk events]) (written eol disk events)
      (some events) untouched (moments ++ [events]) where
  seen := by rw [h.seen, List.map_append, List.map_singleton, List.append_assoc]
  ordered := by
    refine List.pairwise_append.mpr ⟨h.ordered, List.pairwise_singleton _ _, ?_⟩
    intro earlier hearlier moment hmoment
    rw [List.mem_singleton.mp hmoment]
    exact h.before earlier hearlier
  before := by
    intro moment hmoment
    rcases List.mem_append.mp hmoment with hmoment | hmoment
    · exact h.before moment hmoment
    · rw [List.mem_singleton.mp hmoment]
  last := List.getLast?_concat
  file := rfl

theorem History.later (h : History eol disk events seen file final untouched moments) (event : Event) :
    History eol disk (events ++ [event]) seen file final untouched moments :=
  { h with before := fun moment hmoment => (h.before moment hmoment).trans (List.prefix_append _ _) }

theorem exists_history (eol : LineEnd) (disk : Disk) (events : List Event) :
    ∃ untouched moments, History eol disk events (Exporter.run eol disk events).seen
      (Exporter.run eol disk events).disk.file (exported events) untouched moments := by
  induction events using List.reverseRecOn with
  | nil => exact ⟨0, [], rfl, List.Pairwise.nil, by simp, rfl, rfl⟩
  | append_singleton events event ih =>
    obtain ⟨untouched, moments, h⟩ := ih
    rw [run_concat, exported_concat]
    cases event with
    | inc name n => exact ⟨untouched, moments, h.later _⟩
    | flush => exact ⟨untouched, moments, h.later _⟩
    | writeTextfile outcome =>
      cases outcome with
      | noDirectory =>
        exact ⟨untouched, moments, by simpa [Exporter.step, writeTextfile] using h.later _⟩
      | torn part =>
        obtain ⟨untouched', moments', h'⟩ := h.still
        exact ⟨untouched', moments', h'.later _⟩
      | notRenamed =>
        obtain ⟨untouched', moments', h'⟩ := h.still
        exact ⟨untouched', moments', h'.later _⟩
      | done =>
        obtain ⟨untouched', moments', h'⟩ := h.still
        have hwrite := h'.write.later (.writeTextfile .done)
        rw [List.append_assoc] at hwrite
        exact ⟨untouched', moments' ++ [events], hwrite⟩

/-- From its first change on, the file at every moment shows a scraper what has been counted up to
some earlier point, the log lines up to there included; it never shows less than before; and after
the run it shows what was counted up to the last finished export. -/
theorem scrapes_rise (eol : LineEnd) (disk : Disk) (hplain : ∀ event ∈ events, event.Plain) :
    (∀ file ∈ (Exporter.run eol disk events).seen.dropWhile (· = disk.file),
      ∃ before, before <+: events ∧ ∀ name, scraped file name = counted name before ∧
        (scraped file name).getD 0 = (Exporter.run eol disk before).inLog name +
          (Exporter.run eol disk before).unlogged name) ∧
    ((Exporter.run eol disk events).seen.dropWhile (· = disk.file)).Pairwise (fun file later =>
      ∀ name n, scraped file name = some n → ∃ n', n ≤ n' ∧ scraped later name = some n') ∧
    ∀ before, exported events = some before → ∀ name,
      scraped (Exporter.run eol disk events).disk.file name = counted name before := by
  obtain ⟨untouched, moments, h⟩ := exists_history eol disk events
  have hscraped : ∀ moment, moment <+: events → ∀ name,
      scraped (written eol disk moment) name = counted name moment := by
    intro moment hmoment name
    exact scraped_written (fun event hevent => hplain event (hmoment.subset hevent)) name
  have hsuffix : (Exporter.run eol disk events).seen.dropWhile (· = disk.file) <:+
      moments.map (written eol disk) := by
    rw [h.seen, List.dropWhile_append_of_pos (by simp)]
    exact List.dropWhile_suffix _
  refine ⟨?_, ?_, ?_⟩
  · intro file hfile
    obtain ⟨moment, hmoment, rfl⟩ := List.mem_map.mp (hsuffix.subset hfile)
    have hprefix := h.before moment hmoment
    refine ⟨moment, hprefix, fun name => ?_⟩
    rw [hscraped moment hprefix, logged_run]
    exact ⟨rfl, rfl⟩
  · refine List.Pairwise.sublist hsuffix.sublist (List.pairwise_map.mpr ?_)
    refine h.ordered.imp_of_mem ?_
    intro earlier later hearlier hlater hprefix name n hn
    rw [hscraped earlier (h.before earlier hearlier)] at hn
    obtain ⟨rest, rfl⟩ := hprefix
    obtain ⟨n', hle, hn'⟩ := counted_append hn rest
    exact ⟨n', hle, by rw [hscraped _ (h.before _ hlater), hn']⟩
  · intro before hbefore name
    have hmem : before ∈ moments := List.mem_of_getLast? (h.last.trans hbefore)
    rw [h.file, hbefore, Option.map_some, Option.getD_some, hscraped before (h.before before hmem)]

/-- A torn write leaves the file of the export before it. -/
theorem scrapes_rise_torn :
    scraped (Exporter.run .windows ⟨some "old".toList, none⟩
        [.inc "quicBlock.enforced".toList 2, .writeTextfile .done, .flush,
         .inc "quicBlock.enforced".toList 5, .writeTextfile (.torn ['#'])]).disk.file
        "quicBlock.enforced".toList = some 2 ∧
      counted "quicBlock.enforced".toList
        [.inc "quicBlock.enforced".toList 2, .writeTextfile .done, .flush,
         .inc "quicBlock.enforced".toList 5, .writeTextfile (.torn ['#'])] = some 7 := by
  have hplain : ∀ event ∈ [Event.inc "quicBlock.enforced".toList 2, .writeTextfile .done, .flush,
      .inc "quicBlock.enforced".toList 5, .writeTextfile (.torn ['#'])], event.Plain := by
    simp [Event.Plain, PlainName]
  obtain ⟨_, _, hlast⟩ := scrapes_rise .windows ⟨some "old".toList, none⟩ hplain
  exact ⟨hlast [.inc "quicBlock.enforced".toList 2] rfl _, rfl⟩

end Metrics

end GuardTime
