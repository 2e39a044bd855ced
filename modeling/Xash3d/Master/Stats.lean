import Xash3d.Lib.Run
import Xash3d.Lib.Str

/-!
# Statistics

The master counts servers, queries and errors, and a thread prints the counters from time to time as
a format string says. Each print takes the counts that have come together since the one before.
Slices of the format are at byte offsets and may fail; `print` returns `none` in this case.

* `formatPieces`: what a format is made of, from left to right.
* `stats_exact`: a print is the concatenation of what these pieces stand for, and the counts that the
  prints of a run find add up to the events before the last of them.
-/

namespace Xash3d

open Lib Lib.Str

/-! ## The functions of the source -/

/-- How numbers are written; a rate is a count divided by a time. -/
structure NumberFormat (T : Type*) where
  usize : ℕ → Str
  u32 : UInt32 → Str
  rate : UInt32 → T → Str

/-- The number of servers, and what has been counted since the last print. -/
structure Counters where
  servers : ℕ := 0
  serverAdd : UInt32 := 0
  serverDel : UInt32 := 0
  queryServers : UInt32 := 0
  errors : UInt32 := 0
deriving DecidableEq, Repr

namespace Counters

variable {T : Type*} (n : NumberFormat T) (c : Counters) (time : T)

/-- What is written for a percent sign and the character after it. -/
def directive : Option Char → Str
  | some 's' => n.usize c.servers
  | some 'A' => n.u32 c.serverAdd
  | some 'D' => n.u32 c.serverDel
  | some 'Q' => n.u32 c.queryServers
  | some 'E' => n.u32 c.errors
  | some 'a' => n.rate c.serverAdd time
  | some 'd' => n.rate c.serverDel time
  | some 'q' => n.rate c.queryServers time
  | some 'e' => n.rate c.errors time
  | some d => ['%', d]
  | none => ['%']

/-- One turn of the loop of `print`: what it writes, and the format of the next turn. -/
def printStep (format : Str) : Option (Str × Option Str) :=
  match find '%' format with
  | some i => do
    let (head, tail) ← splitAt format i
    let format ← sliceFrom tail 1
    let chars := charIndices 0 format
    let out := head ++ directive n c time (chars.head?.map Prod.snd)
    match chars.tail.head? with
    | some (i, _) => return (out, some (← sliceFrom format i))
    | none => return (out, none)
  | none => some (format, none)

theorem printStep_text {format : Str} (h : '%' ∉ format) :
    printStep n c time format = some (format, none) := by
  rw [printStep, find_eq_none h]

/-- A turn writes the text up to a percent sign and the directive there, and goes on after it if the
format does. -/
theorem printStep_percent {head : Str} (h : '%' ∉ head) (s : Str) :
    printStep n c time (head ++ '%' :: s) =
      some (head ++ directive n c time s.head?, if s.tail = [] then none else some s.tail) := by
  have hslice : sliceFrom ('%' :: s) 1 = some s := sliceFrom_append ['%'] s
  rw [printStep, find_append h]
  simp only [Option.bind_eq_bind, splitAt_append, Option.bind_some, hslice]
  match s with
  | [] => rfl
  | [d] => rfl
  | d :: e :: t =>
    have hnext : sliceFrom (d :: e :: t) (0 + d.utf8Size) = some (e :: t) := by
      rw [Nat.add_comm]
      exact sliceFrom_append [d] (e :: t)
    simp only [charIndices, List.tail_cons, List.head?_cons, Option.map_some, hnext,
      Option.bind_some, reduceCtorEq, if_false]
    rfl

theorem printStep_shorter {format rest out : Str}
    (h : printStep n c time format = some (out, some rest)) : rest.length < format.length := by
  by_cases hmem : '%' ∈ format
  · obtain ⟨head, s, rfl, hhead⟩ := List.eq_append_cons_of_mem hmem
    rw [printStep_percent n c time hhead, Option.some_inj, Prod.mk.injEq] at h
    obtain ⟨-, hrest⟩ := h
    split_ifs at hrest
    cases hrest
    rw [List.length_append, List.length_cons, List.length_tail]
    omega
  · rw [printStep_text n c time hmem] at h
    cases h

/-- The loop of `print`, with what has been written. -/
def printLoop (format buf : Str) : Option Str :=
  match _h : printStep n c time format with
  | none => none
  | some (out, none) => some (buf ++ out)
  | some (out, some rest) => printLoop rest (buf ++ out)
termination_by format.length
decreasing_by exact printStep_shorter n c time _h

/-- The counters after a print has taken what was counted. -/
def taken : Counters := { servers := c.servers }

/-- Write the counters and start to count anew. -/
def print (format buf : Str) : Option Str × Counters := (printLoop n c time format buf, c.taken)

end Counters

/-- What the master counts. -/
inductive StatsEvent
  | serverAdd
  | serverDel
  | queryServers
  | error
deriving DecidableEq, Repr

namespace Counters

/-- The counter of an event. -/
def get (c : Counters) : StatsEvent → UInt32
  | .serverAdd => c.serverAdd
  | .serverDel => c.serverDel
  | .queryServers => c.queryServers
  | .error => c.errors

/-- Add one to the counter of an event; it wraps around. -/
def fetchAdd (c : Counters) : StatsEvent → Counters
  | .serverAdd => { c with serverAdd := c.serverAdd + 1 }
  | .serverDel => { c with serverDel := c.serverDel + 1 }
  | .queryServers => { c with queryServers := c.queryServers + 1 }
  | .error => { c with errors := c.errors + 1 }

theorem get_fetchAdd (c : Counters) (e e' : StatsEvent) :
    (c.fetchAdd e').get e = if e' = e then c.get e + 1 else c.get e := by
  cases e <;> cases e' <;> rfl

@[simp] theorem get_taken (c : Counters) (e : StatsEvent) : c.taken.get e = 0 := by
  cases e <;> rfl

end Counters

/-- When and how the statistics are printed. -/
structure StatConfig where
  interval : UInt32 := 0
  format : Str := "stats: %s servers, %a add/s, %d del/s, %q query/s, %e error/s".toList
deriving DecidableEq, Repr

structure Stats where
  enabled : Bool
  counters : Counters
deriving DecidableEq, Repr

namespace Stats

def new (config : StatConfig) : Stats where
  enabled := config.interval != 0
  counters := {}

def serversCount (s : Stats) (n : ℕ) : Stats :=
  if s.enabled then { s with counters := { s.counters with servers := n } } else s

/-- Count an event if the statistics are enabled. -/
def count (s : Stats) (e : StatsEvent) : Stats :=
  if s.enabled then { s with counters := s.counters.fetchAdd e } else s

def onServerAdd (s : Stats) : Stats := s.count .serverAdd

def onServerDel (s : Stats) : Stats := s.count .serverDel

def onQueryServers (s : Stats) : Stats := s.count .queryServers

def onError (s : Stats) : Stats := s.count .error

/-- The call for an event. -/
def on (s : Stats) : StatsEvent → Stats
  | .serverAdd => s.onServerAdd
  | .serverDel => s.onServerDel
  | .queryServers => s.onQueryServers
  | .error => s.onError

theorem on_eq (s : Stats) (e : StatsEvent) : s.on e = s.count e := by
  cases e <;> rfl

end Stats

/-! ## The pieces of a format -/

/-- What a format is made of: a character of its text, a percent sign with the character after it,
or a percent sign at the end. -/
inductive FormatPiece
  | text (c : Char)
  | directive (c : Char)
  | percent
deriving DecidableEq, Repr

/-- The pieces of a format from left to right. -/
def formatPieces : Str → List FormatPiece
  | [] => []
  | [c] => if c = '%' then [.percent] else [.text c]
  | c :: d :: s => if c = '%' then .directive d :: formatPieces s else .text c :: formatPieces (d :: s)

example : formatPieces "a%%A%".toList = [.text 'a', .directive '%', .text 'A', .percent] := by decide

namespace FormatPiece

/-- The characters of a piece in the format. -/
def source : FormatPiece → Str
  | text c => [c]
  | directive c => ['%', c]
  | percent => ['%']

variable {T : Type*} (n : NumberFormat T) (c : Counters) (time : T)

/-- The counter or the rate that a letter names. -/
def value : Char → Option Str
  | 's' => some (n.usize c.servers)
  | 'A' => some (n.u32 (c.get .serverAdd))
  | 'D' => some (n.u32 (c.get .serverDel))
  | 'Q' => some (n.u32 (c.get .queryServers))
  | 'E' => some (n.u32 (c.get .error))
  | 'a' => some (n.rate (c.get .serverAdd) time)
  | 'd' => some (n.rate (c.get .serverDel) time)
  | 'q' => some (n.rate (c.get .queryServers) time)
  | 'e' => some (n.rate (c.get .error) time)
  | _ => none

/-- What a piece stands for: itself, unless it names a value. -/
def expand : FormatPiece → Str
  | directive d => (value n c time d).getD (directive d).source
  | piece => piece.source

theorem expand_directive (d : Char) :
    (directive d).expand n c time = c.directive n time (some d) := by
  show (value n c time d).getD ['%', d] = _
  unfold value
  split
  all_goals first | rfl | simp_all [Counters.directive]

end FormatPiece

theorem formatPieces_cons {c : Char} (h : c ≠ '%') (s : Str) :
    formatPieces (c :: s) = .text c :: formatPieces s := by
  cases s with
  | nil => exact if_neg h
  | cons d s => exact if_neg h

theorem formatPieces_append {head : Str} (h : '%' ∉ head) (s : Str) :
    formatPieces (head ++ s) = head.map .text ++ formatPieces s := by
  induction head with
  | nil => rfl
  | cons c head ih =>
    obtain ⟨hc, hhead⟩ := not_or.mp (mt List.mem_cons.mpr h)
    rw [List.cons_append, formatPieces_cons (Ne.symm hc), ih hhead]
    rfl

/-- The pieces of a format are all of it. -/
theorem formatPieces_source (format : Str) :
    (formatPieces format).flatMap FormatPiece.source = format := by
  fun_induction formatPieces format with
  | case1 => rfl
  | case2 => rfl
  | case3 => rfl
  | case4 d s ih => exact congrArg (['%', d] ++ ·) ih
  | case5 c d s hc ih => exact congrArg ([c] ++ ·) ih

theorem flatMap_text {T : Type*} (n : NumberFormat T) (c : Counters) (time : T) (head : Str) :
    (head.map FormatPiece.text).flatMap (FormatPiece.expand n c time) = head := by
  induction head with
  | nil => rfl
  | cons d head ih => exact congrArg (d :: ·) ih

namespace Counters

variable {T : Type*} (n : NumberFormat T) (c : Counters) (time : T)

theorem printLoop_step (format buf : Str) :
    printLoop n c time format buf = match printStep n c time format with
      | none => none
      | some (out, none) => some (buf ++ out)
      | some (out, some rest) => printLoop n c time rest (buf ++ out) := by
  conv_lhs => rw [printLoop]
  split
  · next hstep => rw [hstep]
  · next hstep => rw [hstep]
  · next hstep => rw [hstep]

/-- A percent sign stands for the directive there, before the pieces after it. -/
theorem flatMap_percent (s : Str) :
    (formatPieces ('%' :: s)).flatMap (FormatPiece.expand n c time) =
      directive n c time s.head? ++
        (formatPieces s.tail).flatMap (FormatPiece.expand n c time) := by
  cases s with
  | nil => rfl
  | cons d s =>
    have hpieces : formatPieces ('%' :: d :: s) = .directive d :: formatPieces s := if_pos rfl
    rw [hpieces, List.flatMap_cons, FormatPiece.expand_directive]
    rfl

/-- A format is written as its pieces. -/
theorem printLoop_eq (format : Str) : ∀ buf, printLoop n c time format buf =
    some (buf ++ (formatPieces format).flatMap (FormatPiece.expand n c time)) := by
  induction hn : format.length using Nat.strong_induction_on generalizing format with
  | h len ih =>
    intro buf
    by_cases hmem : '%' ∈ format
    · obtain ⟨head, s, rfl, hhead⟩ := List.eq_append_cons_of_mem hmem
      have hstep := printStep_percent n c time hhead s
      have hpieces := flatMap_percent n c time s
      rw [formatPieces_append hhead, List.flatMap_append, flatMap_text, hpieces]
      by_cases hend : s.tail = []
      · rw [if_pos hend] at hstep
        rw [printLoop_step, hstep, hend]
        simp [formatPieces]
      · rw [if_neg hend] at hstep
        have hshorter : s.tail.length < len := hn ▸ printStep_shorter n c time hstep
        rw [printLoop_step, hstep]
        dsimp only
        rw [ih _ hshorter _ rfl, List.append_assoc, List.append_assoc]
    · have hpieces := formatPieces_append hmem []
      rw [List.append_nil] at hpieces
      rw [printLoop_step, printStep_text n c time hmem, hpieces, List.flatMap_append, flatMap_text]
      simp [formatPieces]

theorem print_eq (format buf : Str) : print n c time format buf =
    (some (buf ++ (formatPieces format).flatMap (FormatPiece.expand n c time)), c.taken) := by
  rw [print, printLoop_eq]

end Counters

/-! ## Runs -/

/-- A call: the number of servers is set, an event has happened, or the thread prints. -/
inductive StatsCall (T : Type*)
  | serversCount (n : ℕ)
  | event (e : StatsEvent)
  | print (format : Str) (time : T)

namespace StatsCall

variable {T : Type*}

def isPrint : StatsCall T → Bool
  | print _ _ => true
  | _ => false

def printArgs : StatsCall T → Option (Str × T)
  | print format time => some (format, time)
  | _ => none

/-- The call counts the event `e`, which is so if the statistics are enabled. -/
def counts (enabled : Bool) (e : StatsEvent) : StatsCall T → Bool
  | event e' => enabled && e' == e
  | _ => false

/-- The calls up to the last print. -/
def untilPrint (calls : List (StatsCall T)) : List (StatsCall T) :=
  calls.rdropWhile fun call => !call.isPrint

/-- The calls after the last print. -/
def sincePrint (calls : List (StatsCall T)) : List (StatsCall T) :=
  calls.rtakeWhile fun call => !call.isPrint

/-- What is counted between two prints fits into a counter. -/
def Fits (enabled : Bool) (e : StatsEvent) (calls : List (StatsCall T)) : Prop :=
  ∀ before between format time after,
    calls = before ++ between ++ print format time :: after →
    (∀ call ∈ between, call.isPrint = false) → between.countP (counts enabled e) < 2 ^ 32

theorem Fits.dropLast {enabled : Bool} {e : StatsEvent} (calls : List (StatsCall T))
    (call : StatsCall T) (h : Fits enabled e (calls ++ [call])) : Fits enabled e calls := by
  intro before between format time after heq
  refine h before between format time (after ++ [call]) ?_
  rw [heq, List.append_assoc]
  rfl

theorem Fits.countP_lt {enabled : Bool} {e : StatsEvent} {calls : List (StatsCall T)}
    {format : Str} {time : T} (h : Fits enabled e (calls ++ [print format time])) :
    (sincePrint calls).countP (counts enabled e) < 2 ^ 32 := by
  refine h (untilPrint calls) (sincePrint calls) format time [] ?_ ?_
  · rw [untilPrint, sincePrint, List.rdropWhile_append_rtakeWhile]
  · intro call hcall
    simpa using List.mem_rtakeWhile_imp hcall

variable {calls : List (StatsCall T)} {call : StatsCall T}

theorem untilPrint_concat (h : call.isPrint = false) :
    untilPrint (calls ++ [call]) = untilPrint calls :=
  List.rdropWhile_concat_pos _ _ _ (by simpa using h)

theorem sincePrint_concat (h : call.isPrint = false) :
    sincePrint (calls ++ [call]) = sincePrint calls ++ [call] :=
  List.rtakeWhile_concat_pos _ _ _ (by simpa using h)

theorem untilPrint_print (format : Str) (time : T) :
    untilPrint (calls ++ [print format time]) = calls ++ [print format time] :=
  List.rdropWhile_concat_neg _ _ _ Bool.false_ne_true

theorem sincePrint_print (format : Str) (time : T) :
    sincePrint (calls ++ [print format time]) = [] :=
  List.rtakeWhile_concat_neg _ _ _ Bool.false_ne_true

end StatsCall

/-- A printed line, with the counters that were read for it. -/
structure PrintedStats where
  counters : Counters
  line : Option Str
deriving DecidableEq, Repr

/-- The statistics with all that has been printed. -/
structure StatsRun where
  stats : Stats
  printed : List PrintedStats
deriving DecidableEq, Repr

namespace StatsRun

variable {T : Type*} (n : NumberFormat T)

def step (s : StatsRun) : StatsCall T → StatsRun
  | .serversCount k => { s with stats := s.stats.serversCount k }
  | .event e => { s with stats := s.stats.on e }
  | .print format time =>
    let (line, counters) := s.stats.counters.print n time format []
    { stats := { s.stats with counters := counters }
      printed := s.printed ++ [⟨s.stats.counters, line⟩] }

/-- A run of the statistics from their start. -/
def run (config : StatConfig) (calls : List (StatsCall T)) : StatsRun :=
  exec (step n) { stats := Stats.new config, printed := [] } calls

/-- The sum of what the prints have found of an event. -/
def total (s : StatsRun) (e : StatsEvent) : ℕ :=
  (s.printed.map fun p => (p.counters.get e).toNat).sum

/-- The prints have found all that was counted before the last of them, and the counter holds the
rest. -/
structure Tallied (enabled : Bool) (e : StatsEvent) (calls : List (StatsCall T)) (s : StatsRun) :
    Prop where
  enabled_eq : s.stats.enabled = enabled
  total_eq : s.total e = (StatsCall.untilPrint calls).countP (StatsCall.counts enabled e)
  counter_eq : (s.stats.counters.get e).toNat =
    (StatsCall.sincePrint calls).countP (StatsCall.counts enabled e) % 2 ^ 32

namespace Tallied

variable {n} {enabled : Bool} {e : StatsEvent} {calls : List (StatsCall T)} {s s' : StatsRun}

/-- A call that is no print counts an event, or none. -/
theorem quiet (h : Tallied enabled e calls s) {call : StatsCall T} (hcall : call.isPrint = false)
    (henabled : s'.stats.enabled = s.stats.enabled) (hprinted : s'.printed = s.printed)
    (hcounter : s'.stats.counters.get e =
      if call.counts enabled e then s.stats.counters.get e + 1 else s.stats.counters.get e) :
    Tallied enabled e (calls ++ [call]) s' where
  enabled_eq := henabled.trans h.enabled_eq
  total_eq := by
    rw [StatsCall.untilPrint_concat hcall, ← h.total_eq, total, total, hprinted]
  counter_eq := by
    have hold := h.counter_eq
    rw [StatsCall.sincePrint_concat hcall, List.countP_append, List.countP_singleton, hcounter]
    split_ifs
    · rw [UInt32.toNat_add, hold]
      exact Nat.mod_add_mod _ _ _
    · exact hold

theorem serversCount (h : Tallied enabled e calls s) (k : ℕ) :
    Tallied enabled e (calls ++ [.serversCount k]) (step n s (.serversCount k)) := by
  have hget : (s.stats.serversCount k).counters.get e = s.stats.counters.get e := by
    unfold Stats.serversCount
    split_ifs
    · cases e <;> rfl
    · rfl
  refine h.quiet rfl ?_ rfl hget
  show (s.stats.serversCount k).enabled = _
  unfold Stats.serversCount
  split_ifs <;> rfl

theorem event (h : Tallied enabled e calls s) (e' : StatsEvent) :
    Tallied enabled e (calls ++ [.event e']) (step n s (.event e')) := by
  have hstep : (step n s (.event e')).stats = s.stats.count e' := s.stats.on_eq e'
  have henabled := h.enabled_eq
  refine h.quiet rfl ?_ rfl ?_
  · rw [hstep, Stats.count]
    split_ifs <;> rfl
  · rw [hstep, Stats.count, henabled]
    by_cases hen : enabled = true
    · rw [if_pos hen, Counters.get_fetchAdd]
      simp [StatsCall.counts, hen]
    · rw [if_neg hen]
      simp [StatsCall.counts, hen]

/-- A print takes the counts since the last one, which did not wrap around. -/
theorem print (h : Tallied enabled e calls s) {format : Str} {time : T}
    (hfits : StatsCall.Fits enabled e (calls ++ [.print format time])) :
    Tallied enabled e (calls ++ [.print format time]) (step n s (.print format time)) where
  enabled_eq := h.enabled_eq
  total_eq := by
    have hparts : calls.countP (StatsCall.counts enabled e) =
        (StatsCall.untilPrint calls).countP (StatsCall.counts enabled e) +
          (StatsCall.sincePrint calls).countP (StatsCall.counts enabled e) := by
      rw [← List.countP_append, StatsCall.untilPrint, StatsCall.sincePrint,
        List.rdropWhile_append_rtakeWhile]
    have hcounter := h.counter_eq
    rw [Nat.mod_eq_of_lt hfits.countP_lt] at hcounter
    have htotal : total (step n s (.print format time)) e =
        s.total e + (s.stats.counters.get e).toNat := by
      simp [total, step]
    rw [htotal, h.total_eq, hcounter, StatsCall.untilPrint_print, List.countP_append, hparts]
    rfl
  counter_eq := by
    have htaken : (step n s (.print format time)).stats.counters = s.stats.counters.taken := rfl
    rw [htaken, Counters.get_taken, StatsCall.sincePrint_print]
    rfl

end Tallied

theorem tallied_run (config : StatConfig) (e : StatsEvent) (calls : List (StatsCall T))
    (h : StatsCall.Fits (config.interval != 0) e calls) :
    Tallied (config.interval != 0) e calls (run n config calls) := by
  refine exec_induction (StatsCall.Fits (config.interval != 0) e)
    (Tallied (config.interval != 0) e) StatsCall.Fits.dropLast ?_ ?_ calls h
  · exact ⟨rfl, rfl, by cases e <;> rfl⟩
  · intro calls call hfits ih
    cases call with
    | serversCount k => exact ih.serversCount k
    | event e' => exact ih.event e'
    | print format time => exact ih.print hfits

/-- Each print has written what its format stands for with the counters that it read. -/
def Written (calls : List (StatsCall T)) (s : StatsRun) : Prop :=
  List.Forall₂ (fun p args => p.line = some ((formatPieces args.1).flatMap
    (FormatPiece.expand n p.counters args.2))) s.printed (calls.filterMap StatsCall.printArgs)

theorem written_run (config : StatConfig) (calls : List (StatsCall T)) :
    Written n calls (run n config calls) := by
  have hstart : Written n [] ⟨Stats.new config, []⟩ := List.Forall₂.nil
  refine exec_induction (fun _ => True) (Written n) (fun _ _ _ => trivial) hstart ?_ calls trivial
  intro calls call _ ih
  rw [Written, List.filterMap_append]
  cases call with
  | serversCount k =>
    change List.Forall₂ _ _ (_ ++ [])
    rw [List.append_nil]
    exact ih
  | event e =>
    change List.Forall₂ _ _ (_ ++ [])
    rw [List.append_nil]
    exact ih
  | print format time =>
    refine List.rel_append ih (List.Forall₂.cons ?_ List.Forall₂.nil)
    exact congrArg Prod.fst (Counters.print_eq n _ time format [])

end StatsRun

/-- A print writes the pieces of its format from left to right, each as itself unless it names a
counter or a rate, and takes what was counted. So over a run, what the prints find of an event adds
up to the number of times it was counted before the last of them, if fewer than `2 ^ 32` are
counted between two prints. -/
theorem stats_exact {T : Type*} (n : NumberFormat T) :
    (∀ (c : Counters) (time : T) (format buf : Str),
      c.print n time format buf =
        (some (buf ++ (formatPieces format).flatMap (FormatPiece.expand n c time)), c.taken) ∧
      (formatPieces format).flatMap FormatPiece.source = format) ∧
    ∀ (config : StatConfig) (calls : List (StatsCall T)),
      let s := StatsRun.run n config calls
      s.Written n calls ∧ ∀ e, StatsCall.Fits (config.interval != 0) e calls →
        s.total e =
          (StatsCall.untilPrint calls).countP (StatsCall.counts (config.interval != 0) e) := by
  refine ⟨fun c time format buf => ⟨c.print_eq n time format buf, formatPieces_source format⟩, ?_⟩
  intro config calls s
  refine ⟨StatsRun.written_run n config calls, fun e h => ?_⟩
  exact (StatsRun.tallied_run n config e calls h).total_eq

end Xash3d
