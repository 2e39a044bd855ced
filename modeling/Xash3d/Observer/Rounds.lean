import Xash3d.Observer.Pending

/-!
# Rounds of queries

A turn of the loop of `waitEvent` queries masters and servers in its tasks, except the pending ones,
and then those that are pending. `Queried` counts what an address is sent meanwhile: queries for lists
of servers, and rounds of one call of `Connection.query`. The counts and what may still come make at
most one (`Budget`), so no address is queried twice (`queried_once`).
-/

namespace Xash3d

open Lib

namespace Prog

/-- The program has run, whether it returned or stopped. -/
def Ran {S α : Type} (m : Prog S α) (v v' : World S) : Prop :=
  (∃ x, m v = .ok x v') ∨ ∃ e, m v = .error e v'

end Prog

namespace Observer

variable {sys : System} {a b : SocketAddr} {tr t : List Action} {L K : ℕ}

/-! ## Costs -/

/-- What implies another condition costs no more than it. -/
theorem cost_le {p q : Prop} [Decidable p] [Decidable q] (h : p → q) :
    (if p then 1 else 0) ≤ if q then 1 else 0 := by
  by_cases hp : p
  · rw [if_pos hp, if_pos (h hp)]
  · rw [if_neg hp]
    exact Nat.zero_le _

/-- What singles out one element holds at most once in a list without duplicates. -/
theorem countP_le_one {α : Type} [DecidableEq α] {l : List α} (h : l.Nodup) {p : α → Bool}
    (hp : ∀ x y, p x = true → p y = true → x = y) : l.countP p ≤ 1 := by
  rcases Nat.eq_zero_or_pos (l.countP p) with hzero | hpos
  · omega
  · obtain ⟨x, -, hx⟩ := List.countP_pos_iff.1 hpos
    have hle : l.countP p ≤ l.count x :=
      List.countP_mono_left fun y _ hy => beq_iff_eq.2 (hp y x hy hx)
    exact hle.trans (List.nodup_iff_count_le_one.1 h x)

/-- The same if all are left out on a condition, on which it holds nowhere. -/
theorem countP_unless {α : Type} [DecidableEq α] {l : List α} (h : l.Nodup) {q : α → Prop}
    [DecidablePred q] (hq : ∀ x y, q x → q y → x = y) (p : Prop) [Decidable p] :
    (l.countP fun x => q x ∧ ¬ p) ≤ if p then 0 else 1 := by
  by_cases hp : p
  · rw [if_pos hp, Nat.le_zero, List.countP_eq_zero]
    exact fun x _ hx => (of_decide_eq_true hx).2 hp
  · rw [if_neg hp]
    exact countP_le_one h fun x y hx hy =>
      hq x y (of_decide_eq_true hx).1 (of_decide_eq_true hy).1

/-! ## Counting queries -/

/-- Since the trace `tr`, the address `a` was sent a number of queries for lists of servers and of
rounds, and nothing else. -/
inductive Queried (sys : System) (a : SocketAddr) (tr : List Action) :
    ℕ → ℕ → List Action → Prop
  | start : Queried sys a tr 0 0 tr
  | other {l k : ℕ} {t : List Action} (x : Action) (h : Queried sys a tr l k t)
    (hx : ∀ packet ok, x ≠ .send a packet ok) : Queried sys a tr l k (t ++ [x])
  | list {l k : ℕ} {t : List Action} (packet : Bytes) (ok : Bool) (h : Queried sys a tr l k t)
    (hpacket : QueryServers.header.isPrefixOf packet = true) :
    Queried sys a tr (l + 1) k (t ++ [.send a packet ok])
  | round {l k : ℕ} {t : List Action} {c : Connection} {v : World Connection}
    (h : Queried sys a tr l k t) (hc : c.address = a)
    (hran : Prog.Ran (Connection.query sys bufferLen) ⟨c, t⟩ v) :
    Queried sys a tr l (k + 1) v.trace

/-- At most one query for a list and at most one round. -/
def AtMostOnce (sys : System) (a : SocketAddr) (tr t : List Action) : Prop :=
  ∃ l k, Queried sys a tr l k t ∧ l ≤ 1 ∧ k ≤ 1

/-- As many queries for lists and rounds may still come without a second one. -/
def Budget (sys : System) (a : SocketAddr) (tr : List Action) (L K : ℕ) (t : List Action) : Prop :=
  ∃ l k, Queried sys a tr l k t ∧ l + L ≤ 1 ∧ k + K ≤ 1

/-- The connection of `b` was worked on, and sent to its own address only. -/
def OwnSends (b : SocketAddr) (t : List Action) (v : World Connection) : Prop :=
  v.state.address = b ∧ ∃ ext, v.trace = t ++ ext ∧
    ∀ x ∈ ext, ∀ a packet ok, a ≠ b → x ≠ .send a packet ok

theorem OwnSends.act {v : World Connection} (h : OwnSends b t v) {x : Action}
    (hx : ∀ a packet ok, a ≠ b → x ≠ .send a packet ok) :
    OwnSends b t { v with trace := v.trace ++ [x] } := by
  obtain ⟨hb, ext, ht, hext⟩ := h
  refine ⟨hb, ext ++ [x], ?_, ?_⟩
  · rw [ht, List.append_assoc]
  · intro y hy
    rcases List.mem_append.1 hy with hy | hy
    · exact hext y hy
    · rw [List.mem_singleton.1 hy]
      exact hx

theorem ownSends_query (b : SocketAddr) (t : List Action) (cap : ℕ) :
    Triple (OwnSends b t) (Connection.query sys cap) (fun _ => OwnSends b t)
      fun _ => OwnSends b t := by
  refine triple_query_kept (fun v h => h.act (by simp)) (fun _ _ h => h) (fun _ h => h) ?_ cap
  intro v packet ok h
  refine h.act fun a packet' ok' hne heq => hne ?_
  rw [← h.1]
  exact (Action.send.inj heq).1.symm

namespace Budget

theorem mono (h : Budget sys a tr L K t) {L' K' : ℕ} (hL : L' ≤ L) (hK : K' ≤ K) :
    Budget sys a tr L' K' t := by
  obtain ⟨l, k, hq, hl, hk⟩ := h
  exact ⟨l, k, hq, by omega, by omega⟩

theorem atMostOnce (h : Budget sys a tr L K t) : AtMostOnce sys a tr t := by
  obtain ⟨l, k, hq, hl, hk⟩ := h
  exact ⟨l, k, hq, by omega, by omega⟩

theorem other (h : Budget sys a tr L K t) {x : Action}
    (hx : ∀ packet ok, x ≠ .send a packet ok) : Budget sys a tr L K (t ++ [x]) := by
  obtain ⟨l, k, hq, hl, hk⟩ := h
  exact ⟨l, k, hq.other x hx, hl, hk⟩

theorem others (h : Budget sys a tr L K t) {as : List Action}
    (has : ∀ x ∈ as, ∀ packet ok, x ≠ .send a packet ok) : Budget sys a tr L K (t ++ as) := by
  induction as using List.reverseRecOn with
  | nil => rwa [List.append_nil]
  | append_singleton as x ih =>
    rw [← List.append_assoc]
    exact (ih fun y hy => has y (List.mem_append_left _ hy)).other
      (has x (List.mem_append_right _ (List.mem_singleton_self x)))

/-- A query for a list costs something if it goes to `a`. -/
theorem list (h : Budget sys a tr (L + if b = a then 1 else 0) K t) {packet : Bytes}
    (hpacket : QueryServers.header.isPrefixOf packet = true) (ok : Bool) :
    Budget sys a tr L K (t ++ [.send b packet ok]) := by
  by_cases hb : b = a
  · subst hb
    obtain ⟨l, k, hq, hl, hk⟩ := h
    rw [if_pos rfl] at hl
    exact ⟨l + 1, k, hq.list packet ok hpacket, by omega, hk⟩
  · rw [if_neg hb] at h
    refine h.other fun packet' ok' heq => hb ?_
    exact (Action.send.inj heq).1

/-- A round costs something if it goes to `a`. -/
theorem round (h : Budget sys a tr L (K + if b = a then 1 else 0) t) {c : Connection}
    {v : World Connection} (hc : c.address = b)
    (hran : Prog.Ran (Connection.query sys bufferLen) ⟨c, t⟩ v) (hown : OwnSends b t v) :
    Budget sys a tr L K v.trace := by
  by_cases hb : b = a
  · subst hb
    obtain ⟨l, k, hq, hl, hk⟩ := h
    rw [if_pos rfl] at hk
    exact ⟨l, k + 1, hq.round hc hran, hl, by omega⟩
  · rw [if_neg hb] at h
    obtain ⟨-, ext, ht, hext⟩ := hown
    rw [ht]
    exact h.others fun x hx packet ok => hext x hx a packet ok (Ne.symm hb)

end Budget

/-! ## Queries of a turn -/

/-- A turn is under way, and may still send as much to `a`. -/
structure Turning (sys : System) (a : SocketAddr) (tr : List Action) (ms : List SocketAddr)
    (ps : List Pending) (L K : ℕ) (w : World Observer) : Prop where
  budget : Budget sys a tr L K w.trace
  masters : w.state.masters.map (·.addr) = ms
  pending : w.state.pending = ps
  addressed : Addressed (core w)

/-- A program that stops has queried at most once. -/
def Spent (sys : System) (a : SocketAddr) (tr : List Action) (_ : Stop) (w : World Observer) :
    Prop := AtMostOnce sys a tr w.trace

section Turning

variable {ms : List SocketAddr} {ps : List Pending} {L' K' : ℕ} {w : World Observer}

theorem Turning.mono (h : Turning sys a tr ms ps L K w) (hL : L' ≤ L) (hK : K' ≤ K) :
    Turning sys a tr ms ps L' K' w := { h with budget := h.budget.mono hL hK }

open Prog in
/-- A query is sent to a master, for which it gets a new key. -/
theorem triple_turning_draw {i : ℕ} {m : Master} (filter : Bytes) :
    Triple (fun w => Turning sys a tr ms ps L K w ∧ w.state.masters[i]? = some m)
      (onMaster i m (Master.encodeQueryServersPacket sys filter bufferLen))
      (fun packet w => Turning sys a tr ms ps L K w ∧
        QueryServers.header.isPrefixOf packet = true) (Spent sys a tr) := by
  refine triple_onMaster (fun w hw => hw.2) ?_
  rintro w ⟨hw, hm⟩
  have hdraw (key : UInt32) : Turning sys a tr ms ps L K
      ⟨{ w.state with masters := w.state.masters.set i { m with key } },
        w.trace ++ [.draw m.addr key]⟩ :=
    ⟨hw.budget.other (by simp), (map_addr_set hm key).trans hw.masters, hw.pending, hw.addressed⟩
  refine (triple_encode m w.trace _ _).conseq (fun _ h => h) ?_ ?_
  · rintro packet _ ⟨⟨key, rfl⟩, hpacket⟩
    exact ⟨hdraw key, hpacket⟩
  · rintro _ _ ⟨-, key, rfl⟩
    exact (hdraw key).budget.atMostOnce

open Prog in
theorem triple_turning_send {packet : Bytes}
    (hpacket : QueryServers.header.isPrefixOf packet = true) :
    Triple (Turning sys a tr ms ps (L + if b = a then 1 else 0) K)
      (Prog.sendTo sys packet b) (fun _ => Turning sys a tr ms ps L K) (Spent sys a tr) := by
  refine triple_sendTo ?_ ?_
  · exact fun w hw => { hw with budget := hw.budget.list hpacket true }
  · exact fun w hw => (hw.budget.list hpacket false).atMostOnce

/-- A round of queries to a server. -/
theorem triple_turning_round {c : Connection} :
    Triple (fun w => Turning sys a tr ms ps L (K + if b = a then 1 else 0) w ∧
        w.state.connections.lookup b = some c)
      (onConnection b c (Connection.query sys bufferLen))
      (fun _ => Turning sys a tr ms ps L K) (Spent sys a tr) := by
  refine triple_onConnection (fun w hw => hw.2) ?_
  rintro w ⟨hw, hc⟩
  have haddr : c.address = b := hw.addressed b c hc
  refine ((Triple.self ⟨c, w.trace⟩).and (ownSends_query b w.trace bufferLen)).conseq ?_ ?_ ?_
  · rintro _ rfl
    exact ⟨rfl, haddr, [], by simp, by simp⟩
  · rintro x v ⟨hran, hown⟩
    refine ⟨hw.budget.round haddr (Or.inl ⟨x, hran⟩) hown, hw.masters, hw.pending, ?_⟩
    refine hw.addressed.set (a := b) (c := some v.state) ?_ ?_
    · rintro _ ⟨⟩
      exact hown.1
    · rw [core_insert]
      rfl
  · rintro e v ⟨hran, hown⟩
    exact (hw.budget.round haddr (Or.inr ⟨e, hran⟩) hown).atMostOnce

/-! ### Tasks -/

open Prog in
/-- A turn of the loop over the masters: the pending ones are left for later. -/
theorem triple_turning_master (i : ℕ) :
    Triple (Turning sys a tr ms ps (L + if ms[i]? = some a ∧ .master a ∉ ps then 1 else 0) K)
      (queryServersFromMaster sys i) (fun _ => Turning sys a tr ms ps L K) (Spent sys a tr) := by
  set cost := L + if ms[i]? = some a ∧ .master a ∉ ps then 1 else 0 with hcost
  unfold queryServersFromMaster
  refine Triple.bind (Q := fun o w => Turning sys a tr ms ps cost K w ∧ o = w.state)
    (triple_getState fun w hw => ⟨hw, rfl⟩) fun o => Triple.of_state ?_
  rintro w ⟨hw, rfl⟩
  cases hm : w.state.masters[i]? with
  | none =>
    refine Triple.pure ?_
    rintro _ rfl
    exact hw.mono (Nat.le_add_right _ _) le_rfl
  | some m =>
    have haddr : ms[i]? = some m.addr := by
      rw [← hw.masters, List.getElem?_map, hm]
      rfl
    refine Triple.bind (Q := fun packet w' => Turning sys a tr ms ps cost K w' ∧
      QueryServers.header.isPrefixOf packet = true) ((triple_turning_draw _).pre ?_)
      fun packet => Triple.of_state ?_
    · rintro _ rfl
      exact ⟨hw, hm⟩
    rintro w' ⟨hw', hpacket⟩
    refine triple_when (fun hp => (triple_turning_send hpacket).pre ?_) fun _ => ?_
    · rintro _ rfl
      refine hw'.mono (Nat.add_le_add_left (cost_le fun ha => ?_) L) le_rfl
      rw [hw.pending, ha] at hp
      rw [haddr, ha]
      exact ⟨rfl, by simpa using hp⟩
    · rintro _ rfl
      exact hw'.mono (Nat.le_add_right _ _) le_rfl

open Prog in
theorem triple_turning_masters (hms : ms.Nodup) :
    Triple (Turning sys a tr ms ps (L + if .master a ∈ ps then 0 else 1) K)
      (queryServersFromMasters sys) (fun _ => Turning sys a tr ms ps L K) (Spent sys a tr) := by
  let asks (i : ℕ) : Bool := ms[i]? = some a ∧ .master a ∉ ps
  have hone (n : ℕ) : (List.range n).countP asks ≤ if .master a ∈ ps then 0 else 1 := by
    refine countP_unless List.nodup_range (fun i j hi hj => ?_) _
    obtain ⟨hlt, -⟩ := List.getElem?_eq_some_iff.1 hi
    exact (List.getElem?_inj hlt hms).1 (hi.trans hj.symm)
  unfold queryServersFromMasters
  refine Triple.bind (Q := fun _ => Turning sys a tr ms ps (L + if .master a ∈ ps then 0 else 1) K)
    (triple_getState fun w hw => hw) fun o => ?_
  refine (Triple.forM (I := fun rest => Turning sys a tr ms ps (L + rest.countP asks) K) ?_
    _).conseq ?_ ?_ fun _ _ h => h
  · intro i rest
    refine (triple_turning_master i).pre fun w hw => hw.mono ?_ le_rfl
    rw [List.countP_cons, ← Nat.add_assoc]
    exact Nat.add_le_add_left (cost_le fun hi => decide_eq_true hi) _
  · exact fun w hw => hw.mono (Nat.add_le_add_left (hone _) L) le_rfl
  · exact fun _ w hw => hw

open Prog in
/-- A turn of the loop over the connections: the pending ones are left for later. -/
theorem triple_turning_server (now : ℕ) (b : SocketAddr) :
    Triple (Turning sys a tr ms ps L (K + if b = a ∧ .server a ∉ ps then 1 else 0))
      (queryInfoFromServer sys now b) (fun _ => Turning sys a tr ms ps L K) (Spent sys a tr) := by
  unfold queryInfoFromServer
  refine Triple.bind (Q := fun o w => Turning sys a tr ms ps L
    (K + if b = a ∧ .server a ∉ ps then 1 else 0) w ∧ o = w.state)
    (triple_getState fun w hw => ⟨hw, rfl⟩) fun o => ?_
  cases hc : o.connections.lookup b with
  | none => exact Triple.pure fun w hw => hw.1.mono le_rfl (Nat.le_add_right _ _)
  | some c =>
    dsimp only
    by_cases hvalid : (!c.isValid now) = true
    · rw [if_pos hvalid]
      exact Triple.pure fun w hw => hw.1.mono le_rfl (Nat.le_add_right _ _)
    rw [if_neg hvalid]
    by_cases hp : o.pending.contains (.server b) = true
    · rw [if_pos hp]
      exact Triple.pure fun w hw => hw.1.mono le_rfl (Nat.le_add_right _ _)
    rw [if_neg hp]
    refine Triple.bind (Q := fun _ w => Turning sys a tr ms ps L (K + if b = a then 1 else 0) w ∧
      w.state.connections.lookup b = some c) ?_ fun _ => triple_turning_round
    have hcost {w : World Observer} (hw : Turning sys a tr ms ps L
        (K + if b = a ∧ .server a ∉ ps then 1 else 0) w) (ho : o = w.state) :
        Turning sys a tr ms ps L (K + if b = a then 1 else 0) w := by
      refine hw.mono le_rfl (Nat.add_le_add_left (cost_le fun hb => ⟨hb, ?_⟩) K)
      rw [← hw.pending, ← ho, ← hb]
      simpa using hp
    refine triple_when (fun _ => triple_modifyState ?_) fun _ => ?_
    · rintro w ⟨hw, rfl⟩
      exact ⟨{ hcost hw rfl with }, hc⟩
    · rintro w ⟨hw, rfl⟩
      exact ⟨hcost hw rfl, hc⟩

open Prog in
theorem triple_turning_servers :
    Triple (Turning sys a tr ms ps L (K + if .server a ∈ ps then 0 else 1))
      (queryInfoFromServers sys) (fun _ => Turning sys a tr ms ps L K) (Spent sys a tr) := by
  let asks (b : SocketAddr) : Bool := b = a ∧ .server a ∉ ps
  have hone {l : List SocketAddr} (hl : l.Nodup) :
      l.countP asks ≤ if .server a ∈ ps then 0 else 1 :=
    countP_unless hl (fun _ _ hb hc => hb.trans hc.symm) _
  let Before (w : World Observer) : Prop :=
    Turning sys a tr ms ps L (K + if .server a ∈ ps then 0 else 1) w
  unfold queryInfoFromServers
  refine Triple.bind (Q := fun _ => Before)
    (triple_now fun w hw => { hw with budget := hw.budget.other (by simp) }) fun now => ?_
  refine Triple.bind (Q := fun _ => Before) (triple_getState fun w hw => hw) fun o => ?_
  refine Triple.bind (Q := fun _ => Before)
    (triple_note fun w hw => { hw with budget := hw.budget.other (by simp) }) fun _ => ?_
  refine Triple.bind (Q := fun l => Turning sys a tr ms ps L (K + l.countP asks))
    (triple_addresses fun w l hw hl => ?_) fun l => ?_
  · exact hw.mono le_rfl
      (Nat.add_le_add_left (hone (hl.nodup_iff.2 w.state.connections.keys_nodup)) K)
  · refine Triple.forM (I := fun rest => Turning sys a tr ms ps L (K + rest.countP asks))
      (fun b rest => ?_) l
    refine (triple_turning_server now b).pre fun w hw => hw.mono le_rfl ?_
    rw [List.countP_cons, ← Nat.add_assoc]
    exact Nat.add_le_add_left (cost_le fun hb => decide_eq_true hb) _

open Prog in
theorem triple_turning_cleanup (now : ℕ) :
    Triple (Turning sys a tr ms ps L K) (cleanupServers sys now)
      (fun _ => Turning sys a tr ms ps L K) (Spent sys a tr) := by
  unfold cleanupServers
  refine Triple.bind (Q := fun _ => Turning sys a tr ms ps L K)
    (triple_addresses fun w l hw _ => hw) fun l => ?_
  refine Triple.forM (I := fun _ => Turning sys a tr ms ps L K) (fun b _ => ?_) l
  unfold cleanupServer
  refine Triple.bind (Q := fun _ => Turning sys a tr ms ps L K) (triple_getState fun w hw => hw)
    fun o => ?_
  cases o.connections.lookup b with
  | none => exact Triple.pure fun w hw => hw
  | some c =>
    refine triple_when (fun _ => ?_) fun _ w hw => hw
    refine Triple.bind (Q := fun _ => Turning sys a tr ms ps L K)
      (triple_modifyState fun w hw => { hw with }) fun _ => ?_
    refine Triple.bind (Q := fun _ => Turning sys a tr ms ps L K) (triple_modifyState fun w hw => ?_)
      fun _ => triple_note fun w hw => { hw with budget := hw.budget.other (by simp) }
    refine { hw with addressed := hw.addressed.set (a := b) (c := none) ?_ ?_ }
    · rintro _ ⟨⟩
    · exact lookup_erase_eq w.state b

open Prog in
/-- The tasks leave the pending queries for later. -/
theorem triple_turning_tasks (hms : ms.Nodup) (now : ℕ) :
    Triple (Turning sys a tr ms ps (L + if .master a ∈ ps then 0 else 1)
        (K + if .server a ∈ ps then 0 else 1)) (processTasks sys now)
      (fun _ => Turning sys a tr ms ps L K) (Spent sys a tr) := by
  unfold processTasks
  refine Triple.bind (Q := fun _ => Turning sys a tr ms ps (L + if .master a ∈ ps then 0 else 1)
    (K + if .server a ∈ ps then 0 else 1)) (fun w hw => { hw with }) fun _ => ?_
  refine Triple.bind (Q := fun _ => Turning sys a tr ms ps L (K + if .server a ∈ ps then 0 else 1))
    (triple_when (fun _ => triple_turning_masters hms) fun _ w hw => ?_) fun _ => ?_
  · exact hw.mono (Nat.le_add_right _ _) le_rfl
  refine Triple.bind (Q := fun _ => Turning sys a tr ms ps L (K + if .server a ∈ ps then 0 else 1))
    (fun w hw => { hw with }) fun _ => ?_
  refine Triple.bind (Q := fun _ => Turning sys a tr ms ps L K)
    (triple_when (fun _ => triple_turning_servers) fun _ w hw => ?_) fun _ => ?_
  · exact hw.mono le_rfl (Nat.le_add_right _ _)
  refine Triple.bind (Q := fun _ => Turning sys a tr ms ps L K) (fun w hw => { hw with })
    fun _ => ?_
  exact triple_when (fun _ => triple_turning_cleanup now) fun _ w hw => hw

/-! ### Pending queries -/

open Prog in
/-- A pending entry costs something if it names `a`. -/
theorem triple_turning_pending (p : Pending) :
    Triple (Turning sys a tr ms ps (L + if p = .master a then 1 else 0)
        (K + if p = .server a then 1 else 0)) (queryPending sys p)
      (fun _ => Turning sys a tr ms ps L K) (Spent sys a tr) := by
  cases p with
  | master b =>
    unfold queryPending
    refine Triple.bind (Q := fun o w => Turning sys a tr ms ps (L + if b = a then 1 else 0) K w ∧
      o = w.state) (triple_getState fun w hw => ⟨?_, rfl⟩) fun o => ?_
    · exact hw.mono (Nat.add_le_add_left (cost_le (congrArg _)) L) (Nat.le_add_right _ _)
    cases hi : o.masters.findIdx? (·.addr == b) with
    | none => exact Triple.pure fun w hw => hw.1.mono (Nat.le_add_right _ _) le_rfl
    | some i =>
      obtain ⟨hlt, hb, -⟩ := List.findIdx?_eq_some_iff_getElem.1 hi
      have hm : o.masters[i]? = some o.masters[i] := List.getElem?_eq_getElem hlt
      generalize o.masters[i] = m at hm hb
      obtain rfl : m.addr = b := eq_of_beq hb
      rw [Option.bind_some, hm]
      dsimp only [Option.map_some]
      refine Triple.bind (Q := fun packet w =>
        Turning sys a tr ms ps (L + if m.addr = a then 1 else 0) K w ∧
        QueryServers.header.isPrefixOf packet = true) ((triple_turning_draw _).pre ?_)
        fun packet => Triple.of_state ?_
      · rintro w ⟨hw, rfl⟩
        exact ⟨hw, hm⟩
      · rintro w ⟨hw, hpacket⟩
        refine (triple_turning_send hpacket).pre ?_
        rintro _ rfl
        exact hw
  | server b =>
    unfold queryPending
    refine Triple.bind (Q := fun o w => Turning sys a tr ms ps L (K + if b = a then 1 else 0) w ∧
      o = w.state) (triple_getState fun w hw => ⟨?_, rfl⟩) fun o => ?_
    · exact hw.mono (Nat.le_add_right _ _) (Nat.add_le_add_left (cost_le (congrArg _)) K)
    cases hc : o.connections.lookup b with
    | none => exact Triple.pure fun w hw => hw.1.mono le_rfl (Nat.le_add_right _ _)
    | some c =>
      refine triple_turning_round.pre ?_
      rintro w ⟨hw, rfl⟩
      exact ⟨hw, hc⟩

/-- The entries that are pending name `a` as often as it may still be queried. -/
theorem triple_turning_pendingLoop (n : ℕ) : ∀ ps : List Pending,
    Triple (Turning sys a tr ms ps (ps.count (.master a)) (ps.count (.server a)))
      (processPendingLoop sys n) (fun _ w => AtMostOnce sys a tr w.trace) (Spent sys a tr) := by
  induction n with
  | zero => exact fun ps => Triple.pure fun w hw => hw.budget.atMostOnce
  | succ n ih =>
    intro ps
    rw [processPendingLoop]
    refine Triple.bind (Q := fun r w => r.elim (AtMostOnce sys a tr w.trace) fun p =>
      ∃ ps', Turning sys a tr ms ps' (ps'.count (.master a) + if p = .master a then 1 else 0)
        (ps'.count (.server a) + if p = .server a then 1 else 0) w) ?_ fun r => ?_
    · intro w hw
      unfold popPending
      cases hp : popLast w.state.pending with
      | none => exact hw.budget.atMostOnce
      | some r =>
        have hps : ps = r.2 ++ [r.1] := hw.pending.symm.trans (popLast_eq_some hp)
        have hcount (q : Pending) : r.2.count q + (if r.1 = q then 1 else 0) ≤ ps.count q := by
          rw [hps, List.count_append, List.count_singleton]
          simp
        exact ⟨r.2, { hw.mono (hcount _) (hcount _) with pending := rfl }⟩
    · cases r with
      | none => exact Triple.pure fun w hw => hw
      | some p =>
        refine Triple.of_state ?_
        rintro w ⟨ps', hw⟩
        refine (Triple.bind (triple_turning_pending p) fun _ => ih ps').pre ?_
        rintro _ rfl
        exact hw

/-- A turn queries an address at most once, and leaves nothing pending. -/
theorem triple_turning (hms : ms.Nodup) (hps : ps.Nodup) (now : ℕ) :
    Triple (Turning sys a tr ms ps 1 1)
      (do
        processTasks sys now
        processPending sys)
      (fun _ w => AtMostOnce sys a tr w.trace ∧ w.state.pending = []) (Spent sys a tr) := by
  have hcount (p : Pending) : ps.count p + (if p ∈ ps then 0 else 1) ≤ 1 := by
    by_cases hp : p ∈ ps
    · rw [if_pos hp]
      exact List.nodup_iff_count_le_one.1 hps p
    · rw [if_neg hp, List.count_eq_zero_of_not_mem hp]
  refine Triple.bind ((triple_turning_tasks hms now).pre fun w hw =>
    hw.mono (hcount _) (hcount _)) fun _ => Triple.of_state fun w hw => ?_
  have hempty : Triple (Reached sys (core w)) (processPending sys)
      (fun _ w' => Reached sys (core w) w' ∧ w'.state.pending = []) (OnIo (Reached sys (core w))) :=
    triple_processPending
  have honce : Triple (Turning sys a tr ms ps (ps.count (.master a)) (ps.count (.server a)))
      (processPending sys) (fun _ w => AtMostOnce sys a tr w.trace) (Spent sys a tr) := by
    unfold processPending
    exact Triple.bind (Prog.triple_getState fun w hw => hw) fun o => triple_turning_pendingLoop _ ps
  refine (honce.and hempty).conseq ?_ ?_ ?_
  · rintro _ rfl
    exact ⟨hw, Relation.ReflTransGen.refl⟩
  · exact fun _ w' hw' => ⟨hw'.1, hw'.2.2⟩
  · exact fun e w' hw' => hw'.1

end Turning

/-- What holds of the waits from an observer on. -/
structure QueriesOnce (sys : System) (w : World Observer) : Prop where
  /-- Nothing is pending twice, at any time. -/
  nodup : ∀ s, Moves sys (core w) s → s.pending.Nodup
  /-- When a turn starts, what is pending names a master or a connection. -/
  refers : ∀ turns deadline w₁, AtTurn sys turns w deadline w₁ →
    ∀ p ∈ w₁.state.pending, (core w₁).Refers p
  /-- A pending entry that names nothing any more sends nothing. -/
  skips : ∀ p w', ¬ (core w').Refers p → queryPending sys p w' = .ok () w'
  /-- The tasks and the pending queries of a turn query an address at most once, and if they do not
  fail, nothing is pending after them. -/
  once : ∀ turns deadline w₁, AtTurn sys turns w deadline w₁ → ∀ now a,
    Triple (· = { w₁ with trace := w₁.trace ++ [.now] })
      (do
        processTasks sys now
        processPending sys)
      (fun _ w₂ => AtMostOnce sys a w₁.trace w₂.trace ∧ w₂.state.pending = [])
      fun _ w₂ => AtMostOnce sys a w₁.trace w₂.trace

/-- As long as no socket fails, no turn of a wait queries an address twice. -/
theorem queried_once {sys : System} {rs : List Record} {w : World Observer} (hrun : Run sys rs w)
    (hok : .failed ∉ rs) : QueriesOnce sys w where
  nodup s hs := (tidy_run hrun hok).nodup.sublist hs.pending_prefix.sublist
  refers turns deadline w₁ h := (h.tidy (tidy_run hrun hok)).refers
  skips p w' h := queryPending_of_not_refers sys h
  once turns deadline w₁ h now a := by
    have htidy := h.tidy (tidy_run hrun hok)
    have hmoves : Moves sys (core w) (core w₁) := h.reached.1
    have hkeys : Keys (core w₁) :=
      @Preserved.moves sys _ _ (keys_preserved sys) rs _ _ ((keys_preserved sys).run hrun) hmoves
    have haddressed : Addressed (core w₁) :=
      @Preserved.moves sys _ _ (addressed_preserved sys) rs _ _
        ((addressed_preserved sys).run hrun) hmoves
    refine (triple_turning hkeys.nodup htidy.nodup now).pre ?_
    rintro _ rfl
    have hstart : Budget sys a w₁.trace 1 1 w₁.trace := ⟨0, 0, Queried.start, le_rfl, le_rfl⟩
    exact ⟨hstart.other (by simp), rfl, rfl, haddressed⟩

/-- An observer with one master, whose query is pending. -/
theorem queried_once_master :
    QueriesOnce (answeringSystem masterAddr) (masterWorld masterAddr) :=
  queried_once run_masterWorld (by simp)

end Observer

end Xash3d
