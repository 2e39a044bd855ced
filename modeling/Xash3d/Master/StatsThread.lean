import Xash3d.Lib.Potential
import Xash3d.Master.Stats

/-!
# The thread that prints the statistics

The master counts with atomic operations, and a thread of its own reads the counters one after the
other, clears them and takes configurations from a channel. `World` holds both, and a step of it is one
atomic operation of either. `stats_conserved` accounts for every event over all interleavings, and
`thread_outlives` says what the thread does when the master has dropped the statistics.
-/

namespace Xash3d

open Lib Lib.Str

/-! ## The counters, one at a time -/

namespace Counters

def set (c : Counters) (e : StatsEvent) (v : UInt32) : Counters :=
  match e with
  | .serverAdd => { c with serverAdd := v }
  | .serverDel => { c with serverDel := v }
  | .queryServers => { c with queryServers := v }
  | .error => { c with errors := v }

@[simp] theorem get_set (c : Counters) (e e' : StatsEvent) (v : UInt32) :
    (c.set e' v).get e = if e' = e then v else c.get e := by
  cases e <;> cases e' <;> rfl

end Counters

namespace StatsThread

/-- An atomic variable of the counters. -/
inductive Field where
  | servers
  | event (e : StatsEvent)
  deriving DecidableEq

/-- The variables in the order in which they are read and cleared. -/
def fields : List Field :=
  [.servers, .event .serverAdd, .event .serverDel, .event .queryServers, .event .error]

/-- Store zero in a variable. -/
def clear (c : Counters) : Field → Counters
  | .servers => { c with servers := 0 }
  | .event e => c.set e 0

/-- Read a variable for a line. -/
def read (c got : Counters) : Field → Counters
  | .servers => { got with servers := c.servers }
  | .event e => got.set e (c.get e)

/-- What is left of a variable that is read. -/
def taken (c : Counters) : Field → Counters
  | .servers => c
  | .event e => c.set e 0

/-! ## The two threads -/

/-- What the thread does next. -/
inductive Point where
  /-- Look at the interval. -/
  | top
  | recv
  | clear (rest : List Field)
  | recvTimeout
  | print (rest : List Field) (got : Counters)
  | panicked
  deriving DecidableEq

/-- The statistics of the master and the thread. -/
structure World where
  enabled : Bool
  counters : Counters := {}
  /-- The configurations that are sent and not received yet. -/
  queue : List StatConfig := []
  /-- Whether the master has the statistics still. -/
  connected : Bool := true
  /-- Whether the master has panicked as it could not send. -/
  masterPanicked : Bool := false
  config : StatConfig
  point : Point := .top
  printed : List PrintedStats := []

/-- `Stats::new`. -/
def start (config : StatConfig) : World where
  enabled := config.interval != 0
  config

/-- An atomic operation of the master or of the thread. -/
inductive Step (T : Type) where
  | serversCount (k : ℕ)
  | event (e : StatsEvent)
  /-- A store of `clear`. -/
  | clear (f : Field)
  | updateConfig (config : StatConfig)
  | drop
  /-- A step of the thread: whether its interval has passed, and the time since the last line. -/
  | thread (elapsed : Bool) (time : T)

namespace World

variable {T : Type} (n : NumberFormat T)

/-- A step of the thread; one that waits leaves everything as it is. -/
def thread (w : World) (elapsed : Bool) (time : T) : World :=
  match w.point with
  | .top => { w with point := if w.config.interval = 0 then .recv else .recvTimeout }
  | .recv =>
    match w.queue with
    | config :: queue => { w with config, queue, point := .clear fields }
    | [] => if w.connected then w else { w with point := .panicked }
  | .clear (f :: rest) => { w with counters := StatsThread.clear w.counters f, point := .clear rest }
  | .clear [] => { w with point := .top }
  | .recvTimeout =>
    match w.queue with
    | config :: queue => { w with config, queue, point := .top }
    | [] => if w.connected && !elapsed then w else { w with point := .print fields {} }
  | .print (f :: rest) got =>
    { w with counters := taken w.counters f, point := .print rest (read w.counters got f) }
  | .print [] got =>
    { w with
      printed := w.printed ++ [⟨got, got.printLoop n time w.config.format []⟩]
      point := .top }
  | .panicked => w

/-- A step of the master. -/
def master (w : World) : Step T → World
  | .serversCount k =>
    if w.enabled then { w with counters := { w.counters with servers := k } } else w
  | .event e => if w.enabled then { w with counters := w.counters.fetchAdd e } else w
  | .clear f => { w with counters := StatsThread.clear w.counters f }
  | .updateConfig config =>
    let w := { w with enabled := config.interval != 0 }
    if w.point = .panicked then { w with masterPanicked := true }
    else { w with queue := w.queue ++ [config] }
  | .drop => { w with connected := false }
  | .thread _ _ => w

/-- The master does nothing more after it has dropped the statistics. -/
def step (w : World) (x : Step T) : World :=
  match x with
  | .thread elapsed time => w.thread n elapsed time
  | x => if w.connected then w.master x else w

end World

section Steps

variable {T : Type} {n : NumberFormat T}

def Step.isThread : Step T → Bool
  | .thread _ _ => true
  | _ => false

def Step.isEvent (e : StatsEvent) : Step T → Bool
  | .event e' => e' = e
  | _ => false

/-- A step of the master, while it has the statistics. -/
theorem step_master {x : Step T} (hx : x.isThread = false) (w : World) :
    w.step n x = if w.connected then w.master x else w := by
  cases x with
  | thread elapsed time => cases hx
  | serversCount | event | clear | updateConfig | drop => rfl

theorem exists_thread {x : Step T} (hx : x.isThread = true) :
    ∃ elapsed time, x = .thread elapsed time := by
  cases x with
  | thread elapsed time => exact ⟨elapsed, time, rfl⟩
  | serversCount | event | clear | updateConfig | drop => cases hx

end Steps

/-! ## Every event is accounted for -/

/-- What the thread has read for the next line. -/
def Point.got : Point → Counters
  | .print _ got => got
  | _ => {}

/-- The events that are printed, read or still counted. -/
def held (e : StatsEvent) (w : World) : ℕ :=
  (w.printed.map fun p => (p.counters.get e).toNat).sum + (w.point.got.get e).toNat +
    (w.counters.get e).toNat

section Accounts

variable {T : Type} {n : NumberFormat T}

/-- The events that are counted in a step. -/
def counted (e : StatsEvent) (w : World) : Step T → ℕ
  | .event e' => if w.connected = true ∧ w.enabled = true ∧ e' = e then 1 else 0
  | _ => 0

/-- The events that are lost in a step: a counter is cleared, or wraps around. -/
def lost (e : StatsEvent) (w : World) : Step T → ℕ
  | .event e' =>
    if w.connected = true ∧ w.enabled = true ∧ e' = e ∧ w.counters.get e + 1 = 0 then 2 ^ 32 else 0
  | .clear f => if w.connected = true ∧ f = .event e then (w.counters.get e).toNat else 0
  | .thread _ _ =>
    match w.point with
    | .clear (f :: _) => if f = .event e then (w.counters.get e).toNat else 0
    | _ => 0
  | _ => 0

/-- What is to be read was not read before. -/
def Reading (w : World) : Prop :=
  ∀ rest got, w.point = .print rest got →
    rest.Nodup ∧ ∀ e, .event e ∈ rest → got.get e = 0

@[simp] theorem get_empty (e : StatsEvent) : ({} : Counters).get e = 0 := by
  cases e <;> rfl

theorem get_clear (c : Counters) (f : Field) (e : StatsEvent) :
    (clear c f).get e = if f = .event e then 0 else c.get e := by
  cases f with
  | servers => cases e <;> rfl
  | event e' => simp [clear]

theorem get_taken (c : Counters) (f : Field) (e : StatsEvent) :
    (taken c f).get e = if f = .event e then 0 else c.get e := by
  cases f with
  | servers => cases e <;> rfl
  | event e' => simp [taken]

theorem get_read (c got : Counters) (f : Field) (e : StatsEvent) :
    (read c got f).get e = if f = .event e then c.get e else got.get e := by
  cases f with
  | servers => cases e <;> rfl
  | event e' =>
    rw [read, Counters.get_set]
    by_cases h : e' = e
    · subst h
      simp
    · rw [if_neg h, if_neg (by simpa using h)]

/-- A counter that does not wrap around is one greater. -/
theorem toNat_add_one (v : UInt32) : (v + 1).toNat + (if v + 1 = 0 then 2 ^ 32 else 0) =
    v.toNat + 1 := by
  have hlt : v.toNat < 2 ^ 32 := v.toNat_lt
  by_cases h : v + 1 = 0
  · have hv : (v.toNat + 1) % 2 ^ 32 = 0 := by
      simpa using congrArg UInt32.toNat h
    rw [if_pos h, h]
    show 0 + 2 ^ 32 = _
    omega
  · have hv : (v.toNat + 1) % 2 ^ 32 ≠ 0 := by
      intro h0
      exact h (UInt32.toNat_inj.1 (by simpa using h0))
    rw [if_neg h, UInt32.toNat_add]
    show (v.toNat + 1) % 2 ^ 32 + 0 = _
    omega

/-- A world with the same prints and reads, and the same counter. -/
theorem held_congr {e : StatsEvent} {w w' : World} (hprinted : w'.printed = w.printed)
    (hgot : w'.point.got.get e = w.point.got.get e) (hget : w'.counters.get e = w.counters.get e) :
    held e w' = held e w := by
  unfold held
  rw [hprinted, hgot, hget]

/-- A step of the thread reads, prints or clears. -/
theorem held_thread {e : StatsEvent} {w : World} (h : Reading w) (elapsed : Bool) (time : T) :
    Reading (w.thread n elapsed time) ∧
      lost e w (.thread elapsed time) + held e (w.thread n elapsed time) = held e w := by
  unfold World.thread lost
  cases hpoint : w.point with
  | top =>
    refine ⟨fun rest got h => ?_, (zero_add _).trans (held_congr rfl ?_ rfl)⟩
    · dsimp only at h
      split_ifs at h
    · rw [hpoint]
      dsimp only
      split_ifs <;> rfl
  | recv =>
    dsimp only
    cases w.queue with
    | cons config queue =>
      exact ⟨nofun, (zero_add _).trans (held_congr rfl (by rw [hpoint]; rfl) rfl)⟩
    | nil =>
      dsimp only
      split_ifs
      · exact ⟨h, zero_add _⟩
      · exact ⟨nofun, (zero_add _).trans (held_congr rfl (by rw [hpoint]; rfl) rfl)⟩
  | clear rest =>
    cases rest with
    | nil => exact ⟨nofun, (zero_add _).trans (held_congr rfl (by rw [hpoint]; rfl) rfl)⟩
    | cons f rest =>
      refine ⟨nofun, ?_⟩
      unfold held
      dsimp only [Point.got]
      rw [hpoint, get_clear]
      dsimp only [Point.got]
      split_ifs
      · show _ + (_ + 0) = _
        omega
      · omega
  | recvTimeout =>
    dsimp only
    cases w.queue with
    | cons config queue =>
      exact ⟨nofun, (zero_add _).trans (held_congr rfl (by rw [hpoint]; rfl) rfl)⟩
    | nil =>
      dsimp only
      split_ifs
      · exact ⟨h, zero_add _⟩
      · refine ⟨?_, (zero_add _).trans (held_congr rfl (by rw [hpoint]; rfl) rfl)⟩
        rintro rest got hprint
        cases hprint
        exact ⟨by decide, fun e _ => get_empty e⟩
  | print rest got =>
    obtain ⟨hnodup, hgot⟩ := h rest got hpoint
    cases rest with
    | nil =>
      refine ⟨nofun, ?_⟩
      unfold held
      dsimp only
      rw [hpoint, List.map_append, List.sum_append]
      simp [Point.got]
    | cons f rest =>
      obtain ⟨hf, hrest⟩ := List.nodup_cons.1 hnodup
      constructor
      · rintro rest' got' hprint
        cases hprint
        refine ⟨hrest, fun e' he' => ?_⟩
        have hne : f ≠ .event e' := fun heq => hf (heq ▸ he')
        rw [get_read, if_neg hne]
        exact hgot e' (List.mem_cons_of_mem f he')
      · unfold held
        dsimp only [Point.got]
        rw [hpoint, get_taken, get_read]
        dsimp only [Point.got]
        by_cases hfe : f = .event e
        · rw [if_pos hfe, if_pos hfe, hgot e (hfe ▸ List.mem_cons_self)]
          show 0 + (_ + _ + 0) = _ + 0 + _
          omega
        · rw [if_neg hfe, if_neg hfe, zero_add]
  | panicked => exact ⟨h, zero_add _⟩

/-- A step of the master counts or clears. -/
theorem held_master {e : StatsEvent} {w : World} (hc : w.connected = true) {x : Step T}
    (hx : x.isThread = false) :
    lost e w x + held e (w.master x) = held e w + counted e w x := by
  cases x with
  | thread elapsed time => cases hx
  | serversCount k =>
    refine (zero_add _).trans ?_
    unfold World.master
    split_ifs
    · exact held_congr rfl rfl (by cases e <;> rfl)
    · rfl
  | event e' =>
    unfold World.master lost counted
    dsimp only
    by_cases henabled : w.enabled = true
    · by_cases he : e' = e
      · have hwrap := toNat_add_one (w.counters.get e)
        unfold held
        rw [if_pos henabled]
        simp only [hc, henabled, he, true_and, if_true, Counters.get_fetchAdd]
        omega
      · rw [if_pos henabled, if_neg (by simp [he]), if_neg (by simp [he]), zero_add]
        refine held_congr rfl rfl ?_
        rw [Counters.get_fetchAdd, if_neg he]
    · rw [if_neg henabled, if_neg (by simp [henabled]), if_neg (by simp [henabled])]
      exact zero_add _
  | clear f =>
    unfold World.master lost counted held
    dsimp only
    rw [get_clear]
    simp only [hc, true_and]
    split_ifs
    · show _ + (_ + 0) = _
      omega
    · omega
  | updateConfig config =>
    refine (zero_add _).trans ?_
    unfold World.master
    dsimp only
    split_ifs <;> exact held_congr rfl rfl rfl
  | drop => exact (zero_add _).trans (held_congr rfl rfl rfl)

/-- Without the master nothing is counted. -/
theorem held_dropped {e : StatsEvent} {w : World} (hc : ¬ w.connected = true) {x : Step T}
    (hx : x.isThread = false) : lost e w x + held e w = held e w + counted e w x := by
  cases x with
  | thread elapsed time => cases hx
  | serversCount | event | clear | updateConfig | drop => simp [lost, counted, hc]

/-- The thread reads what it read before. -/
theorem point_master (w : World) (x : Step T) : (w.master x).point = w.point := by
  unfold World.master
  split <;> first | rfl | (split_ifs <;> rfl) | skip
  dsimp only
  split_ifs <;> rfl

theorem held_step (e : StatsEvent) (w : World) (x : Step T) (h : Reading w) :
    Reading (w.step n x) ∧ lost e w x + held e (w.step n x) = held e w + counted e w x := by
  cases hx : x.isThread with
  | true =>
    obtain ⟨elapsed, time, rfl⟩ := exists_thread hx
    obtain ⟨hreading, heq⟩ := held_thread (n := n) (e := e) h elapsed time
    exact ⟨hreading, heq⟩
  | false =>
    rw [step_master hx]
    by_cases hc : w.connected = true
    · rw [if_pos hc]
      have hpoint := point_master w x
      exact ⟨fun rest got hprint => h rest got (hpoint.symm.trans hprint), held_master hc hx⟩
    · rw [if_neg hc]
      exact ⟨h, held_dropped hc hx⟩

/-! ## The channel -/

/-- The configurations that are sent in a step. -/
def sends (w : World) : Step T → List StatConfig
  | .updateConfig config => if w.connected = true ∧ w.point ≠ .panicked then [config] else []
  | _ => []

/-- The thread is to print. -/
def Point.Prints : Point → Prop
  | .recvTimeout | .print _ _ => True
  | _ => False

/-- What the thread and the master have of the configurations that were sent. -/
structure Channel (n : NumberFormat T) (config : StatConfig) (sent : List StatConfig) (w : World) :
    Prop where
  fifo : ∃ received, sent = received ++ w.queue ∧ w.config = received.getLastD config
  enabled : w.enabled = ((sent.getLastD config).interval != 0)
  alive : w.connected = true → w.point ≠ .panicked
  master : w.masterPanicked = false
  prints : w.point.Prints → w.config.interval ≠ 0
  printed : ∀ p ∈ w.printed, ∃ c ∈ config :: sent, c.interval ≠ 0 ∧ ∃ time,
    p.line = some ((formatPieces c.format).flatMap (FormatPiece.expand n p.counters time))

namespace Channel

variable {config : StatConfig} {sent : List StatConfig} {w : World}

/-- The configuration in use is one of those that were sent. -/
theorem mem (h : Channel n config sent w) : w.config ∈ config :: sent := by
  obtain ⟨received, rfl, hconfig⟩ := h.fifo
  rw [hconfig]
  rcases List.eq_nil_or_concat received with rfl | ⟨l, c, rfl⟩
  · exact List.mem_cons_self
  · rw [List.concat_eq_append, List.getLastD_concat]
    simp

/-- A configuration is received. -/
theorem receive (h : Channel n config sent w) {c : StatConfig} {queue : List StatConfig}
    (hqueue : w.queue = c :: queue) {point : Point} (hpoint : ¬ point.Prints)
    (hpanicked : point ≠ .panicked) :
    Channel n config sent { w with config := c, queue, point } := by
  obtain ⟨received, hsent, -⟩ := h.fifo
  refine { h with fifo := ?_, alive := fun _ => hpanicked, prints := fun hp => absurd hp hpoint }
  refine ⟨received ++ [c], ?_, (List.getLastD_concat ..).symm⟩
  rw [hsent, hqueue, List.append_assoc]
  rfl

/-- The thread goes on with the same configuration. -/
theorem goTo (h : Channel n config sent w) (counters : Counters) (point : Point)
    (hpanicked : w.connected = true → point ≠ .panicked)
    (hprints : point.Prints → w.config.interval ≠ 0) :
    Channel n config sent { w with counters, point } :=
  { h with alive := hpanicked, prints := hprints }

theorem thread (h : Channel n config sent w) (elapsed : Bool) (time : T) :
    Channel n config sent (w.thread n elapsed time) := by
  unfold World.thread
  cases hpoint : w.point with
  | top =>
    dsimp only
    split_ifs with hinterval
    · exact h.goTo w.counters .recv nofun nofun
    · exact h.goTo w.counters .recvTimeout nofun fun _ => hinterval
  | recv =>
    dsimp only
    cases hqueue : w.queue with
    | cons c queue => exact h.receive hqueue id nofun
    | nil =>
      dsimp only
      rw [← hqueue]
      split_ifs with hc
      · exact h
      · exact h.goTo w.counters .panicked (fun hc' => absurd hc' hc) nofun
  | clear rest =>
    cases rest with
    | nil => exact h.goTo w.counters .top nofun nofun
    | cons f rest => exact h.goTo (StatsThread.clear w.counters f) (.clear rest) nofun nofun
  | recvTimeout =>
    have hinterval := h.prints (hpoint ▸ trivial)
    dsimp only
    cases hqueue : w.queue with
    | cons c queue => exact h.receive hqueue id nofun
    | nil =>
      dsimp only
      rw [← hqueue]
      split_ifs
      · exact h
      · exact h.goTo w.counters (.print fields {}) nofun fun _ => hinterval
  | print rest got =>
    have hinterval := h.prints (hpoint ▸ trivial)
    cases rest with
    | cons f rest =>
      exact h.goTo (taken w.counters f) (.print rest (read w.counters got f)) nofun
        fun _ => hinterval
    | nil =>
      refine { h with alive := nofun, prints := nofun, printed := ?_ }
      intro p hp
      rcases List.mem_append.1 hp with hp | hp
      · exact h.printed p hp
      · obtain rfl := List.mem_singleton.1 hp
        refine ⟨w.config, h.mem, hinterval, time, ?_⟩
        exact Counters.printLoop_eq n got time w.config.format []
  | panicked => exact h

theorem step (h : Channel n config sent w) (x : Step T) :
    Channel n config (sent ++ sends w x) (w.step n x) := by
  have hsame : ∀ {w' : World}, w'.queue = w.queue → w'.config = w.config → w'.enabled = w.enabled →
      w'.point = w.point → w'.masterPanicked = w.masterPanicked → w'.printed = w.printed →
      (w'.connected = true → w.connected = true) → Channel n config (sent ++ []) w' := by
    intro w' hqueue hconfig henabled hpoint hmaster hprinted hconnected
    rw [List.append_nil]
    refine ⟨?_, henabled.trans h.enabled, fun hc => hpoint ▸ h.alive (hconnected hc),
      hmaster.trans h.master, ?_, ?_⟩
    · rw [hqueue, hconfig]
      exact h.fifo
    · rw [hpoint, hconfig]
      exact h.prints
    · rw [hprinted]
      exact h.printed
  unfold World.step sends
  cases x with
  | thread elapsed time =>
    rw [List.append_nil]
    exact h.thread elapsed time
  | updateConfig c =>
    dsimp only
    by_cases hc : w.connected = true
    · have halive := h.alive hc
      rw [if_pos hc, if_pos ⟨hc, halive⟩]
      unfold World.master
      dsimp only
      rw [if_neg halive]
      obtain ⟨received, hsent, hconfig⟩ := h.fifo
      refine { h with fifo := ⟨received, ?_, hconfig⟩, enabled := ?_, printed := ?_ }
      · rw [hsent, List.append_assoc]
      · rw [List.getLastD_concat]
      · intro p hp
        obtain ⟨c', hc', hrest⟩ := h.printed p hp
        exact ⟨c', by simpa using Or.imp id Or.inl (List.mem_cons.1 hc'), hrest⟩
    · rw [if_neg hc, if_neg fun h => hc h.1]
      exact hsame rfl rfl rfl rfl rfl rfl id
  | serversCount k =>
    dsimp only
    unfold World.master
    dsimp only
    split_ifs <;> exact hsame rfl rfl rfl rfl rfl rfl id
  | event e =>
    dsimp only
    unfold World.master
    dsimp only
    split_ifs <;> exact hsame rfl rfl rfl rfl rfl rfl id
  | clear f =>
    dsimp only
    split_ifs <;> exact hsame rfl rfl rfl rfl rfl rfl id
  | drop =>
    dsimp only
    split_ifs
    · exact hsame rfl rfl rfl rfl rfl rfl nofun
    · exact hsame rfl rfl rfl rfl rfl rfl id

end Channel

/-- The configurations that the master sends in a run. -/
def sent (n : NumberFormat T) : World → List (Step T) → List StatConfig :=
  emitted (World.step n) sends

theorem channel_run (n : NumberFormat T) (config : StatConfig) (xs : List (Step T)) :
    Channel n config (sent n (start config) xs) (exec (World.step n) (start config) xs) := by
  induction xs using List.reverseRecOn with
  | nil => exact ⟨⟨[], rfl, rfl⟩, rfl, fun _ => nofun, rfl, nofun, nofun⟩
  | append_singleton xs x ih =>
    rw [sent, emitted_concat, exec_append, exec_singleton]
    exact ih.step x

theorem held_run (n : NumberFormat T) (config : StatConfig) (e : StatsEvent) (xs : List (Step T)) :
    tally (World.step n) (lost e) (start config) xs +
        held e (exec (World.step n) (start config) xs) =
      tally (World.step n) (counted e) (start config) xs := by
  have hstart : held e (start config) = 0 := by simp [held, start, Point.got]
  have hrun := tally_eq (World.step n) (lost e) (held e) (fun w x h => held_step e w x h) xs
    (start config) nofun
  rwa [hstart, zero_add] at hrun

/-! ## Nothing is lost while the statistics last -/

/-- The master keeps the statistics enabled, and does not clear them. -/
def Step.Lasts : Step T → Prop
  | .clear _ => False
  | .updateConfig config => config.interval ≠ 0
  | _ => True

/-- The thread does not clear the counters. -/
structure Lasting (w : World) : Prop where
  config : w.config.interval ≠ 0
  queue : ∀ c ∈ w.queue, c.interval ≠ 0
  recv : w.point ≠ .recv
  clear : ∀ rest, w.point ≠ .clear rest

theorem Lasting.thread {w : World} (h : Lasting w) (elapsed : Bool) (time : T) :
    Lasting (w.thread n elapsed time) := by
  unfold World.thread
  cases hpoint : w.point with
  | top =>
    refine { h with recv := ?_, clear := ?_ }
    · rw [if_neg h.config]
      nofun
    · rw [if_neg h.config]
      nofun
  | recv => exact absurd hpoint h.recv
  | clear rest => exact absurd hpoint (h.clear rest)
  | recvTimeout =>
    dsimp only
    cases hqueue : w.queue with
    | cons c queue =>
      have hlasts := h.queue
      rw [hqueue] at hlasts
      exact ⟨hlasts c List.mem_cons_self, fun c' hc' => hlasts c' (List.mem_cons_of_mem c hc'),
        nofun, nofun⟩
    | nil =>
      dsimp only
      rw [← hqueue]
      split_ifs
      · exact h
      · exact { h with recv := nofun, clear := nofun }
  | print rest got => cases rest <;> exact { h with recv := nofun, clear := nofun }
  | panicked => exact h

theorem Lasting.step {w : World} (h : Lasting w) {x : Step T} (hx : x.Lasts) :
    Lasting (w.step n x) := by
  unfold World.step World.master
  cases x with
  | thread elapsed time => exact h.thread elapsed time
  | serversCount k =>
    dsimp only
    split_ifs <;> exact { h with }
  | event e =>
    dsimp only
    split_ifs <;> exact { h with }
  | clear f => exact hx.elim
  | updateConfig config =>
    dsimp only
    split_ifs
    · exact { h with }
    · refine { h with queue := fun c hc => ?_ }
      rcases List.mem_append.1 hc with hc | hc
      · exact h.queue c hc
      · rw [List.mem_singleton.1 hc]
        exact hx
    · exact h
  | drop =>
    dsimp only
    split_ifs <;> exact { h with }

/-- Nothing is lost unless a counter wraps around. -/
theorem lost_lasting {e : StatsEvent} {w : World} (h : Lasting w) {x : Step T} (hx : x.Lasts)
    (hfit : (w.counters.get e).toNat + counted e w x < 2 ^ 32) : lost e w x = 0 := by
  cases x with
  | event e' =>
    unfold lost
    dsimp only
    refine if_neg ?_
    rintro ⟨hc, henabled, he, hwrap⟩
    have hone : counted e w (.event e' : Step T) = 1 := if_pos ⟨hc, henabled, he⟩
    have hsum := toNat_add_one (w.counters.get e)
    rw [if_pos hwrap, hwrap] at hsum
    have hzero : (0 : UInt32).toNat = 0 := rfl
    omega
  | clear f => exact hx.elim
  | thread elapsed time =>
    unfold lost
    dsimp only
    split
    · exact absurd ‹_› (h.clear _)
    · rfl
  | serversCount | updateConfig | drop => rfl

/-- Unless a counter wraps around, every event is printed or still to be printed. -/
theorem held_unwrapped (n : NumberFormat T) (config : StatConfig) (hconfig : config.interval ≠ 0)
    (e : StatsEvent) (xs : List (Step T)) (hxs : ∀ x ∈ xs, x.Lasts)
    (hfit : ∀ p x q, xs = p ++ x :: q →
      ((exec (World.step n) (start config) p).counters.get e).toNat +
        counted e (exec (World.step n) (start config) p) x < 2 ^ 32) :
    held e (exec (World.step n) (start config) xs) =
      tally (World.step n) (counted e) (start config) xs := by
  have hrun := held_run n config e xs
  suffices h : Lasting (exec (World.step n) (start config) xs) ∧
      tally (World.step n) (lost e) (start config) xs = 0 by
    rw [← hrun, h.2, zero_add]
  clear hrun
  induction xs using List.reverseRecOn with
  | nil => exact ⟨⟨hconfig, nofun, nofun, nofun⟩, rfl⟩
  | append_singleton xs x ih =>
    have hx := hxs x (List.mem_append_right xs (List.mem_singleton_self x))
    obtain ⟨hlasting, hlost⟩ := ih (fun y hy => hxs y (List.mem_append_left [x] hy))
      fun p y q hsplit => hfit p y (q ++ [x]) (by rw [hsplit]; simp)
    rw [exec_append, exec_singleton, tally_append, hlost]
    refine ⟨hlasting.step hx, ?_⟩
    rw [tally_cons, lost_lasting hlasting hx (hfit xs x [] rfl)]
    rfl

/-- With fewer than `2 ^ 32` events in all no counter wraps around. -/
theorem held_lasting (n : NumberFormat T) (config : StatConfig) (hconfig : config.interval ≠ 0)
    (e : StatsEvent) (xs : List (Step T)) (hxs : ∀ x ∈ xs, x.Lasts)
    (hfit : tally (World.step n) (counted e) (start config) xs < 2 ^ 32) :
    held e (exec (World.step n) (start config) xs) =
      tally (World.step n) (counted e) (start config) xs := by
  refine held_unwrapped n config hconfig e xs hxs ?_
  rintro p x q rfl
  have hrun := held_run n config e p
  have hle : ((exec (World.step n) (start config) p).counters.get e).toNat ≤
      held e (exec (World.step n) (start config) p) := Nat.le_add_left _ _
  rw [tally_append, tally_cons] at hfit
  omega

/-! ## Between two readings -/

/-- The thread reads the counter of an event. -/
def Reads (e : StatsEvent) (w : World) (x : Step T) : Prop :=
  x.isThread = true ∧ ∃ rest got, w.point = .print (.event e :: rest) got

/-- Fewer than `2 ^ 32` events come between two readings of their counter. -/
def Rare (n : NumberFormat T) (e : StatsEvent) (w : World) (xs : List (Step T)) : Prop :=
  ∀ u v q, xs = u ++ v ++ q →
    (∀ v₁ x v₂, v = v₁ ++ x :: v₂ → ¬ Reads e (exec (World.step n) w (u ++ v₁)) x) →
    v.countP (Step.isEvent e) < 2 ^ 32

theorem rare_of_countP {e : StatsEvent} {w : World} {xs : List (Step T)}
    (h : xs.countP (Step.isEvent e) < 2 ^ 32) : Rare n e w xs := by
  rintro u v q rfl -
  rw [List.countP_append, List.countP_append] at h
  omega

/-- The thread clears the counters, or reads one of them. -/
theorem counters_thread (w : World) (elapsed : Bool) (time : T) :
    (w.thread n elapsed time).counters = w.counters ∨
    (∃ f, (w.thread n elapsed time).counters = clear w.counters f) ∨
    ∃ f rest got, w.point = .print (f :: rest) got ∧
      (w.thread n elapsed time).counters = taken w.counters f := by
  unfold World.thread
  cases hpoint : w.point with
  | top | panicked => exact Or.inl rfl
  | recv =>
    dsimp only
    cases w.queue with
    | cons config queue => exact Or.inl rfl
    | nil =>
      dsimp only
      split_ifs <;> exact Or.inl rfl
  | clear rest =>
    cases rest with
    | nil => exact Or.inl rfl
    | cons f rest => exact Or.inr (Or.inl ⟨f, rfl⟩)
  | recvTimeout =>
    dsimp only
    cases w.queue with
    | cons config queue => exact Or.inl rfl
    | nil =>
      dsimp only
      split_ifs <;> exact Or.inl rfl
  | print rest got =>
    cases rest with
    | nil => exact Or.inl rfl
    | cons f rest => exact Or.inr (Or.inr ⟨f, rest, got, rfl, rfl⟩)

theorem counter_thread (e : StatsEvent) (w : World) (elapsed : Bool) (time : T) :
    ((w.thread n elapsed time).counters.get e).toNat ≤ (w.counters.get e).toNat ∧
    (Reads e w (.thread elapsed time : Step T) → (w.thread n elapsed time).counters.get e = 0) := by
  have hcases := counters_thread (n := n) w elapsed time
  constructor
  · rcases hcases with h | ⟨f, h⟩ | ⟨f, rest, got, -, h⟩ <;> rw [h]
    · rw [get_clear]
      split_ifs
      · exact Nat.zero_le _
      · exact le_rfl
    · rw [get_taken]
      split_ifs
      · exact Nat.zero_le _
      · exact le_rfl
  · rintro ⟨-, rest, got, hpoint⟩
    unfold World.thread
    rw [hpoint]
    dsimp only
    rw [get_taken, if_pos rfl]

theorem counter_master (e : StatsEvent) (w : World) {x : Step T} (hx : x.isThread = false) :
    ((w.master x).counters.get e).toNat ≤
      (w.counters.get e).toNat + if x.isEvent e then 1 else 0 := by
  cases x with
  | thread elapsed time => cases hx
  | serversCount k =>
    have hsame : (w.master (.serversCount k : Step T)).counters.get e = w.counters.get e := by
      unfold World.master
      dsimp only
      split_ifs
      · cases e <;> rfl
      · rfl
    rw [hsame]
    exact Nat.le_add_right _ _
  | event e' =>
    unfold World.master Step.isEvent
    dsimp only
    have hwrap := toNat_add_one (w.counters.get e)
    by_cases henabled : w.enabled = true
    · rw [if_pos henabled, Counters.get_fetchAdd]
      by_cases he : e' = e
      · rw [if_pos he, if_pos (decide_eq_true he)]
        omega
      · rw [if_neg he]
        exact Nat.le_add_right _ _
    · rw [if_neg henabled]
      exact Nat.le_add_right _ _
  | clear f =>
    show ((clear w.counters f).get e).toNat ≤ _
    rw [get_clear]
    by_cases hf : f = .event e
    · rw [if_pos hf]
      exact Nat.zero_le _
    · rw [if_neg hf]
      exact Nat.le_add_right _ _
  | updateConfig config =>
    have hsame : (w.master (.updateConfig config : Step T)).counters = w.counters := by
      unfold World.master
      dsimp only
      split_ifs <;> rfl
    rw [hsame]
    exact Nat.le_add_right _ _
  | drop => exact Nat.le_add_right _ _

/-- A step counts one event, or none; a counter that is read starts again. -/
theorem counter_step (e : StatsEvent) (w : World) (x : Step T) :
    ((w.step n x).counters.get e).toNat ≤
      (w.counters.get e).toNat + (if x.isEvent e then 1 else 0) ∧
    (Reads e w x → (w.step n x).counters.get e = 0) := by
  cases hx : x.isThread with
  | true =>
    obtain ⟨elapsed, time, rfl⟩ := exists_thread hx
    have hthread := counter_thread (n := n) e w elapsed time
    exact ⟨hthread.1.trans (Nat.le_add_right _ _), hthread.2⟩
  | false =>
    refine ⟨?_, fun hreads => absurd (hreads.1.symm.trans hx) (by simp)⟩
    rw [step_master hx]
    by_cases hconnected : w.connected = true
    · rw [if_pos hconnected]
      exact counter_master e w hx
    · rw [if_neg hconnected]
      exact Nat.le_add_right _ _

/-- A counter holds no more than the events since it was read. -/
theorem exists_unread (n : NumberFormat T) (config : StatConfig) (e : StatsEvent)
    (xs : List (Step T)) : ∃ u v, xs = u ++ v ∧
      (∀ v₁ x v₂, v = v₁ ++ x :: v₂ →
        ¬ Reads e (exec (World.step n) (start config) (u ++ v₁)) x) ∧
      ((exec (World.step n) (start config) xs).counters.get e).toNat ≤
        v.countP (Step.isEvent e) := by
  induction xs using List.reverseRecOn with
  | nil =>
    refine ⟨[], [], rfl, fun v₁ x v₂ hv => by simp at hv, ?_⟩
    show ((start config).counters.get e).toNat ≤ 0
    rw [show (start config).counters = {} from rfl, get_empty]
    exact le_rfl
  | append_singleton xs x ih =>
    obtain ⟨u, v, rfl, hunread, hle⟩ := ih
    obtain ⟨hstep, hreset⟩ :=
      counter_step (n := n) e (exec (World.step n) (start config) (u ++ v)) x
    rw [exec_append, exec_singleton]
    by_cases hreads : Reads e (exec (World.step n) (start config) (u ++ v)) x
    · refine ⟨u ++ v ++ [x], [], (List.append_nil _).symm, fun v₁ y v₂ hv => by simp at hv, ?_⟩
      rw [hreset hreads]
      exact le_rfl
    · refine ⟨u, v ++ [x], List.append_assoc u v [x], ?_, ?_⟩
      · intro v₁ y v₂ hv
        rcases append_cons_eq_snoc hv.symm with ⟨v', -, hv⟩ | ⟨-, rfl, rfl⟩
        · exact hunread v₁ y v' hv
        · exact hreads
      · rw [List.countP_append, List.countP_singleton]
        exact hstep.trans (Nat.add_le_add_right hle _)

/-- The events that are counted are among those that come. -/
theorem counted_le (e : StatsEvent) (w : World) (x : Step T) :
    counted e w x ≤ if x.isEvent e then 1 else 0 := by
  cases x with
  | event e' =>
    unfold counted Step.isEvent
    dsimp only
    by_cases he : e' = e
    · rw [if_pos (decide_eq_true he)]
      split_ifs <;> decide
    · rw [if_neg fun h => he h.2.2]
      exact Nat.zero_le _
  | serversCount | clear | updateConfig | drop | thread => exact Nat.zero_le _

/-- The statistics are enabled, and nothing is waited for that disables them. -/
def Counting (w : World) : Prop := w.connected = true ∧ w.enabled = true

theorem counting_thread {w : World} (h : Counting w) (elapsed : Bool) (time : T) :
    Counting (w.thread n elapsed time) := by
  unfold World.thread
  split
  · exact h
  · split
    · exact h
    · split_ifs <;> exact h
  · exact h
  · exact h
  · split
    · exact h
    · split_ifs <;> exact h
  · exact h
  · exact h
  · exact h

/-- While the statistics stay enabled every event is counted. -/
theorem counting_step {e : StatsEvent} {w : World} (h : Counting w) {x : Step T} (hx : x.Lasts)
    (hdrop : x ≠ .drop) :
    Counting (w.step n x) ∧ counted e w x = if x.isEvent e then 1 else 0 := by
  cases x with
  | thread elapsed time => exact ⟨counting_thread h elapsed time, rfl⟩
  | serversCount k =>
    refine ⟨?_, rfl⟩
    rw [step_master rfl, if_pos h.1]
    unfold World.master
    split_ifs <;> exact h
  | event e' =>
    constructor
    · rw [step_master rfl, if_pos h.1]
      unfold World.master
      split_ifs <;> exact h
    · unfold counted Step.isEvent
      simp [h.1, h.2]
  | clear f => exact hx.elim
  | updateConfig config =>
    have henabled : (config.interval != 0) = true := bne_iff_ne.2 hx
    refine ⟨?_, rfl⟩
    rw [step_master rfl, if_pos h.1]
    unfold World.master
    dsimp only
    split_ifs <;> exact ⟨h.1, henabled⟩
  | drop => exact absurd rfl hdrop

/-- No more is printed or still to be printed than comes. -/
theorem held_le (n : NumberFormat T) (config : StatConfig) (e : StatsEvent) (xs : List (Step T)) :
    held e (exec (World.step n) (start config) xs) ≤ xs.countP (Step.isEvent e) := by
  have hcount : tally (World.step n) (fun _ x => if x.isEvent e then 1 else 0) (start config) xs =
      xs.countP (Step.isEvent e) := tally_count (Step.isEvent e) (start config) xs
  calc held e (exec (World.step n) (start config) xs)
      ≤ tally (World.step n) (lost e) (start config) xs +
          held e (exec (World.step n) (start config) xs) := Nat.le_add_left _ _
    _ = tally (World.step n) (counted e) (start config) xs := held_run n config e xs
    _ ≤ _ := tally_mono (counted_le e) xs _
    _ = xs.countP (Step.isEvent e) := hcount

/-- Everything that comes is printed or still to be printed. -/
theorem held_counting (n : NumberFormat T) (config : StatConfig) (hconfig : config.interval ≠ 0)
    (e : StatsEvent) (xs : List (Step T)) (hxs : ∀ x ∈ xs, x.Lasts ∧ x ≠ .drop)
    (hrare : Rare n e (start config) xs) :
    held e (exec (World.step n) (start config) xs) = xs.countP (Step.isEvent e) := by
  have hstart : Counting (start config) := ⟨rfl, bne_iff_ne.2 hconfig⟩
  have hall : tally (World.step n) (counted e) (start config) xs = xs.countP (Step.isEvent e) :=
    (tally_congr (P := Counting) (Q := fun x => x.Lasts ∧ x ≠ .drop)
      (fun w x h hx => counting_step h hx.1 hx.2) xs (start config) hstart hxs).trans
      (tally_count (Step.isEvent e) (start config) xs)
  rw [← hall]
  refine held_unwrapped n config hconfig e xs (fun x hx => (hxs x hx).1) ?_
  rintro p x q rfl
  have hcounted := counted_le e (exec (World.step n) (start config) p) x
  by_cases hx : x.isEvent e = true
  · obtain ⟨u, v, rfl, hunread, hle⟩ := exists_unread n config e p
    have hnext := hrare u (v ++ [x]) q (by simp) fun v₁ y v₂ hv => by
      rcases append_cons_eq_snoc hv.symm with ⟨v', -, hv⟩ | ⟨-, rfl, rfl⟩
      · exact hunread v₁ y v' hv
      · -- the thread does not count
        rintro ⟨hthread, -⟩
        obtain ⟨elapsed, time, rfl⟩ := exists_thread hthread
        cases hx
    rw [List.countP_append, List.countP_singleton, if_pos hx] at hnext
    rw [if_pos hx] at hcounted
    omega
  · rw [if_neg hx] at hcounted
    have hlt := ((exec (World.step n) (start config) p).counters.get e).toNat_lt
    omega

/-! ## The thread outlives the statistics -/

/-- The steps that the thread has made of a turn, after it has cleared the counters. -/
def Point.turn : Point → ℕ
  | .clear rest => 5 - rest.length
  | .top => 6
  | .recvTimeout => 7
  | .print rest _ => 13 - rest.length
  | .recv | .panicked => 0

/-- The steps of the thread until it panics. -/
def Point.untilPanic : Point → ℕ
  | .clear rest => rest.length + 3
  | .top => 2
  | .recv => 1
  | .recvTimeout | .print _ _ | .panicked => 0

/-- The thread waits for a configuration only if it has nothing to print. -/
def Sized (w : World) : Prop :=
  match w.point with
  | .clear rest => rest.length ≤ 5
  | .print rest _ => rest.length ≤ 5
  | .recv | .panicked => w.config.interval = 0
  | _ => True

theorem Sized.thread {w : World} (h : Sized w) (elapsed : Bool) (time : T) :
    Sized (w.thread n elapsed time) := by
  unfold Sized at h
  unfold World.thread
  cases hpoint : w.point with
  | top =>
    dsimp only
    split_ifs with hinterval
    · exact hinterval
    · trivial
  | recv =>
    dsimp only
    cases hqueue : w.queue with
    | cons c queue => exact le_rfl
    | nil =>
      dsimp only
      rw [hpoint] at h
      split_ifs
      · unfold Sized
        rw [hpoint]
        exact h
      · exact h
  | clear rest =>
    rw [hpoint] at h
    cases rest with
    | nil => trivial
    | cons f rest => exact (Nat.le_succ _).trans h
  | recvTimeout =>
    dsimp only
    cases w.queue with
    | cons c queue => trivial
    | nil =>
      dsimp only
      split_ifs
      · unfold Sized
        rw [hpoint]
        trivial
      · exact le_rfl
  | print rest got =>
    rw [hpoint] at h
    cases rest with
    | nil => trivial
    | cons f rest => exact (Nat.le_succ _).trans h
  | panicked =>
    unfold Sized
    rw [hpoint] at h ⊢
    exact h

/-- The master does not touch what the thread has received. -/
theorem config_master (w : World) (x : Step T) : (w.master x).config = w.config := by
  cases x with
  | serversCount | event =>
    unfold World.master
    dsimp only
    split_ifs <;> rfl
  | updateConfig =>
    unfold World.master
    dsimp only
    split_ifs <;> rfl
  | clear | drop | thread => rfl

theorem Sized.step {w : World} (h : Sized w) (x : Step T) : Sized (w.step n x) := by
  cases hx : x.isThread with
  | true =>
    obtain ⟨elapsed, time, rfl⟩ := exists_thread hx
    exact h.thread elapsed time
  | false =>
    rw [step_master hx]
    split_ifs
    · unfold Sized at h ⊢
      rw [point_master, config_master]
      exact h
    · exact h

/-- The master has dropped the statistics, and the thread has received everything. -/
structure Orphaned (w : World) : Prop where
  connected : w.connected = false
  queue : w.queue = []
  sized : Sized w
  prints : w.point.Prints → w.config.interval ≠ 0

/-- A step of a thread that is left alone: it comes closer to the next line if it is to print, and to
its end if not. -/
structure GoesOn (w w' : World) : Prop where
  orphaned : Orphaned w'
  config : w'.config = w.config
  prints : w.config.interval ≠ 0 →
    8 * w'.printed.length + w'.point.turn = 8 * w.printed.length + w.point.turn + 1
  /-- After a line the thread clears no counters any more. -/
  turns : w.config.interval ≠ 0 → 6 ≤ w.point.turn ∨ w.printed.length < w'.printed.length →
    6 ≤ w'.point.turn
  panics : w.config.interval = 0 → w'.point.untilPanic = w.point.untilPanic - 1

theorem Orphaned.thread {w : World} (h : Orphaned w) (elapsed : Bool) (time : T) :
    GoesOn w (w.thread n elapsed time) := by
  have hsized := h.sized.thread (n := n) elapsed time
  have hnow := h.sized
  have hprints := h.prints
  unfold Sized at hnow
  unfold World.thread at hsized ⊢
  cases hpoint : w.point with
  | top =>
    rw [hpoint] at hsized
    dsimp only at hsized ⊢
    by_cases hinterval : w.config.interval = 0
    · rw [if_pos hinterval]
      refine ⟨⟨h.connected, h.queue, hinterval, nofun⟩, rfl, fun hne => absurd hinterval hne,
        fun hne => absurd hinterval hne, ?_⟩
      rw [hpoint]
      exact fun _ => rfl
    · rw [if_neg hinterval]
      have hturn : 6 ≤ Point.recvTimeout.turn := by decide
      refine ⟨⟨h.connected, h.queue, trivial, fun _ => hinterval⟩, rfl, ?_, fun _ _ => hturn,
        fun hzero => absurd hzero hinterval⟩
      rw [hpoint]
      exact fun _ => rfl
  | recv =>
    rw [hpoint] at hnow
    dsimp only
    rw [h.queue, h.connected, if_neg Bool.false_ne_true]
    refine ⟨⟨rfl, rfl, hnow, nofun⟩, rfl, fun hne => absurd hnow hne, fun hne => absurd hnow hne, ?_⟩
    rw [hpoint]
    exact fun _ => rfl
  | clear rest =>
    rw [hpoint] at hnow hsized
    cases rest with
    | nil =>
      refine ⟨⟨h.connected, h.queue, hsized, nofun⟩, rfl, ?_, fun _ _ => le_rfl, ?_⟩ <;>
        rw [hpoint] <;> exact fun _ => rfl
    | cons f rest =>
      have hrest : rest.length + 1 ≤ 5 := hnow
      have hturn : ¬ 6 ≤ (Point.clear (f :: rest)).turn := by
        simp only [Point.turn, List.length_cons]
        omega
      refine ⟨⟨h.connected, h.queue, hsized, nofun⟩, rfl, ?_, fun _ hline => ?_, ?_⟩
      rotate_left
      · exact absurd (hline.resolve_right (lt_irrefl _)) (hpoint ▸ hturn)
      all_goals
        rw [hpoint]
        intro _
        simp only [Point.turn, Point.untilPanic, List.length_cons]
        omega
  | recvTimeout =>
    have hinterval := hprints (hpoint ▸ trivial)
    rw [hpoint] at hsized
    simp only [h.queue, h.connected, Bool.false_and, Bool.false_eq_true, if_false] at hsized ⊢
    have hturn : 6 ≤ (Point.print fields {}).turn := by decide
    refine ⟨⟨rfl, rfl, hsized, fun _ => hinterval⟩, rfl, ?_, fun _ _ => hturn,
      fun hzero => absurd hzero hinterval⟩
    rw [hpoint]
    exact fun _ => rfl
  | print rest got =>
    have hinterval := hprints (hpoint ▸ trivial)
    rw [hpoint] at hnow hsized
    cases rest with
    | nil =>
      refine ⟨⟨h.connected, h.queue, hsized, nofun⟩, rfl, ?_, fun _ _ => le_rfl,
        fun hzero => absurd hzero hinterval⟩
      rw [hpoint]
      intro _
      simp only [Point.turn, List.length_append, List.length_singleton, List.length_nil]
      omega
    | cons f rest =>
      have hrest : rest.length + 1 ≤ 5 := hnow
      refine ⟨⟨h.connected, h.queue, hsized, fun _ => hinterval⟩, rfl, ?_, fun _ _ => ?_,
        fun hzero => absurd hzero hinterval⟩
      · rw [hpoint]
        intro _
        simp only [Point.turn, List.length_cons]
        omega
      · simp only [Point.turn]
        omega
  | panicked =>
    rw [hpoint] at hnow
    refine ⟨h, rfl, fun hne => absurd hnow hne, fun hne => absurd hnow hne, ?_⟩
    rw [hpoint]
    exact fun _ => rfl

/-- What comes of a thread that is left alone, whatever the steps. -/
theorem Orphaned.run {w : World} (h : Orphaned w) (n : NumberFormat T) (ys : List (Step T)) :
    let w' := exec (World.step n) w ys
    Orphaned w' ∧ w'.config = w.config ∧
      (w.config.interval ≠ 0 → 8 * w'.printed.length + w'.point.turn =
        8 * w.printed.length + w.point.turn + ys.countP Step.isThread) ∧
      (w.config.interval ≠ 0 → w.printed.length < w'.printed.length → 6 ≤ w'.point.turn) ∧
      (w.config.interval = 0 →
        w'.point.untilPanic = w.point.untilPanic - ys.countP Step.isThread) := by
  induction ys using List.reverseRecOn with
  | nil => exact ⟨h, rfl, fun _ => rfl, fun _ hline => absurd hline (lt_irrefl _), fun _ => rfl⟩
  | append_singleton ys y ih =>
    obtain ⟨horphaned, hconfig, hprints, hturns, hpanics⟩ := ih
    rw [exec_append, exec_singleton, List.countP_append, List.countP_singleton]
    cases hy : y.isThread with
    | false =>
      rw [step_master hy, if_neg (by simp [horphaned.connected])]
      exact ⟨horphaned, hconfig, hprints, hturns, hpanics⟩
    | true =>
      obtain ⟨elapsed, time, rfl⟩ := exists_thread hy
      have hgoes : GoesOn _ ((exec (World.step n) w ys).thread n elapsed time) :=
        horphaned.thread elapsed time
      refine ⟨hgoes.orphaned, hgoes.config.trans hconfig, fun hne => ?_, fun hne hline => ?_,
        fun hzero => ?_⟩
      · rw [if_pos rfl, ← Nat.add_assoc, ← hprints hne]
        exact hgoes.prints (hconfig ▸ hne)
      · refine hgoes.turns (hconfig ▸ hne) ?_
        by_cases hbefore : w.printed.length < (exec (World.step n) w ys).printed.length
        · exact Or.inl (hturns hne hbefore)
        · exact Or.inr ((not_lt.1 hbefore).trans_lt hline)
      · rw [if_pos rfl, ← Nat.sub_sub, ← hpanics hzero]
        exact hgoes.panics (hconfig ▸ hzero)

theorem Point.turn_le (p : Point) : p.turn ≤ 13 := by
  cases p with
  | clear rest => exact (Nat.sub_le _ _).trans (by omega)
  | print rest got => exact Nat.sub_le _ _
  | top | recv | recvTimeout | panicked => decide

theorem untilPanic_le {w : World} (h : Sized w) : w.point.untilPanic ≤ 8 := by
  unfold Sized at h
  cases hpoint : w.point with
  | clear rest =>
    rw [hpoint] at h
    exact Nat.add_le_add_right h 3
  | top | recv | recvTimeout | print | panicked => simp [Point.untilPanic]

theorem sized_run (n : NumberFormat T) (config : StatConfig) (xs : List (Step T)) :
    Sized (exec (World.step n) (start config) xs) := by
  induction xs using List.reverseRecOn with
  | nil => trivial
  | append_singleton xs x ih =>
    rw [exec_append, exec_singleton]
    exact ih.step x

end Accounts

/-- No event is lost or counted twice, in whatever order the operations of the master and of the thread
come: it is printed, or read for a line, or still counted, unless its counter was cleared or wrapped
around. Nothing is lost while the statistics stay enabled. Configurations come through in order, the
master always can send them, and what is printed is spelled as one of them says. -/
theorem stats_conserved {T : Type} (n : NumberFormat T) (config : StatConfig)
    (xs : List (Step T)) :
    let w := exec (World.step n) (start config) xs
    let total := fun cost => tally (World.step n) cost (start config) xs
    (∀ e, total (lost e) + held e w = total (counted e)) ∧
    (config.interval ≠ 0 → (∀ x ∈ xs, x.Lasts) → ∀ e, total (counted e) < 2 ^ 32 →
      held e w = total (counted e)) ∧
    Channel n config (sent n (start config) xs) w :=
  ⟨fun e => held_run n config e xs,
    fun hconfig hxs e hfit => held_lasting n config hconfig e xs hxs hfit,
    channel_run n config xs⟩

/-- When the master drops the statistics the thread goes on without them. With an interval it prints a
line within fourteen steps and then exactly one in each eight steps, and waits no more; without one it
panics. -/
theorem thread_outlives {T : Type} (n : NumberFormat T) (config : StatConfig)
    (xs ys : List (Step T)) :
    let w := exec (World.step n) (start config) xs
    let w' := exec (World.step n) w ys
    w.connected = false → w.queue = [] →
    (w.config.interval ≠ 0 →
      8 * w.printed.length + ys.countP Step.isThread ≤ 8 * w'.printed.length + 13 ∧
      (w.printed.length < w'.printed.length → ∀ zs, zs.countP Step.isThread = 8 →
        (exec (World.step n) w' zs).printed.length = w'.printed.length + 1)) ∧
    (w.config.interval = 0 → 8 ≤ ys.countP Step.isThread → w'.point = .panicked) := by
  intro w w' hconnected hqueue
  have hchannel : Channel n config (sent n (start config) xs) w := channel_run n config xs
  have horphaned : Orphaned w := ⟨hconnected, hqueue, sized_run n config xs, hchannel.prints⟩
  obtain ⟨horphaned', hconfig, hprints, hturns, hpanics⟩ : Orphaned w' ∧ w'.config = w.config ∧
      (w.config.interval ≠ 0 → 8 * w'.printed.length + w'.point.turn =
        8 * w.printed.length + w.point.turn + ys.countP Step.isThread) ∧
      (w.config.interval ≠ 0 → w.printed.length < w'.printed.length → 6 ≤ w'.point.turn) ∧
      (w.config.interval = 0 →
        w'.point.untilPanic = w.point.untilPanic - ys.countP Step.isThread) :=
    horphaned.run n ys
  constructor
  · intro hinterval
    have hlines := hprints hinterval
    have hturn := w'.point.turn_le
    refine ⟨by omega, fun hline zs hzs => ?_⟩
    have hinterval' : w'.config.interval ≠ 0 := hconfig ▸ hinterval
    obtain ⟨-, -, hprints', hturns', -⟩ := horphaned'.run n zs
    have hlines' := hprints' hinterval'
    have hafter := hturns hinterval hline
    have hturn' := (exec (World.step n) w' zs).point.turn_le
    -- both turns are between 6 and 13, so that the eight steps hold one line
    have hmore : w'.printed.length < (exec (World.step n) w' zs).printed.length := by omega
    have hafter' := hturns' hinterval' hmore
    omega
  · intro hinterval hsteps
    have hend := hpanics hinterval
    rw [Nat.sub_eq_zero_of_le ((untilPanic_le horphaned.sized).trans hsteps)] at hend
    have hquiet : ¬ w'.point.Prints := fun hp => horphaned'.prints hp (hconfig ▸ hinterval)
    cases hpoint : w'.point with
    | panicked => rfl
    | recvTimeout | print => exact absurd (hpoint ▸ trivial) hquiet
    | top | recv | clear =>
      rw [hpoint] at hend
      cases hend

theorem thread_outlives_line :
    let n : NumberFormat Unit := ⟨fun _ => [], fun _ => [], fun _ _ => []⟩
    let w := exec (World.step n) (start { interval := 5 }) [.drop]
    1 ≤ (exec (World.step n) w (List.replicate 21 (.thread false ()))).printed.length := by
  intro n w
  have hlines := (thread_outlives n { interval := 5 } [.drop]
    (List.replicate 21 (.thread false ())) rfl rfl).1 (by decide) |>.1
  change 8 * 0 + 21 ≤ 8 * (exec (World.step n) w _).printed.length + 13 at hlines
  generalize (exec (World.step n) w _).printed.length = lines at hlines ⊢
  omega

end StatsThread

end Xash3d
