import Xash3d.Observer.Moves

/-!
# Runs of an observer

A consumer makes calls and waits for events, in any order. `Run` collects what it did and what it was
told, with the observer after that. `Called` says what a call does to the core of an observer.
`Run.kept` proves a property of all runs from what every call and every move preserves.
-/

namespace Xash3d

open Lib

/-! ## Removing from a vector -/

section Vec

variable {α : Type}

/-- The last element moves to the place of the removed one. -/
theorem swapRemove_perm {l : List α} {i : ℕ} (h : i < l.length) : l.Perm (l[i] :: swapRemove l i) := by
  rcases List.eq_nil_or_concat' l with rfl | ⟨l', x, rfl⟩
  · cases h
  have hremove : swapRemove (l' ++ [x]) i = ((l' ++ [x]).set i x).dropLast := by
    unfold swapRemove
    rw [List.getLast?_concat]
  rw [hremove]
  rcases Nat.lt_or_ge i l'.length with hi | hi
  · have hset : ((l' ++ [x]).set i x).dropLast = l'.set i x := by
      rw [List.set_append_left _ _ hi, List.dropLast_concat]
    rw [hset, List.getElem_append_left hi]
    calc (l' ++ [x]).Perm (x :: l') := List.perm_append_singleton x l'
      _ |>.Perm (x :: l'[i] :: l'.eraseIdx i) := ((List.getElem_cons_eraseIdx_perm hi).symm).cons x
      _ |>.Perm (l'[i] :: x :: l'.eraseIdx i) := List.Perm.swap _ _ _
      _ |>.Perm (l'[i] :: l'.set i x) := ((List.set_perm_cons_eraseIdx hi x).symm).cons _
  · obtain rfl : i = l'.length := by
      rw [List.length_append, List.length_singleton] at h
      omega
    have hset : ((l' ++ [x]).set l'.length x).dropLast = l' := by
      rw [List.set_append_right _ _ le_rfl, Nat.sub_self, List.set_cons_zero, List.dropLast_concat]
    rw [hset, List.getElem_concat_length rfl]
    exact List.perm_append_singleton x l'

/-- The list `l'` is `l` without some of the `x`. -/
def Without (x : α) (l l' : List α) : Prop := l' ⊆ l ∧ ∀ y ∈ l, y ≠ x → y ∈ l'

end Vec

namespace Observer

theorem removePending_eq (o : Observer) (p : Pending) :
    o.removePending p = { o with pending := (o.removePending p).pending } := by
  unfold removePending
  split <;> rfl

theorem removePending_without (o : Observer) (p : Pending) :
    Without p o.pending (o.removePending p).pending := by
  unfold removePending
  cases hi : o.pending.findIdx? (· == p) with
  | none => exact ⟨List.Subset.refl _, fun q hq _ => hq⟩
  | some i =>
    obtain ⟨hlt, hp, -⟩ := List.findIdx?_eq_some_iff_getElem.1 hi
    have hperm := swapRemove_perm hlt
    rw [eq_of_beq hp] at hperm
    refine ⟨fun q hq => hperm.mem_iff.2 (List.mem_cons_of_mem _ hq), ?_⟩
    intro q hq hne
    exact (List.mem_cons.1 (hperm.mem_iff.1 hq)).resolve_left hne

/-! ## Calls -/

/-- What a consumer asks of an observer between two waits. -/
inductive Call where
  | setFilterRaw (filter : Bytes)
  | insertMaster (master : Master)
  | removeMaster (addr : SocketAddr)
  | insertServer (server : Server)
  | removeServer (addr : SocketAddr)
  deriving DecidableEq

def Call.run (sys : System) : Call → Prog Observer Unit
  | .setFilterRaw filter => Observer.setFilterRaw filter
  | .insertMaster master => Observer.insertMaster master
  | .removeMaster addr => Observer.removeMaster addr
  | .insertServer server => Observer.insertServer sys server
  | .removeServer addr => Observer.removeServer addr

/-- Everything a call can do. -/
inductive Called (sys : System) : Core → Call → Core → Prop
  | setFilterRaw (s : Core) (filter : Bytes) : Called sys s (.setFilterRaw filter) s
  | insertMaster (s : Core) (m : Master) (h : ∀ m' ∈ s.masters, m'.addr ≠ m.addr) :
    Called sys s (.insertMaster m) { s.record [.insertMaster m.addr] with
      masters := s.masters ++ [m], pending := s.pending ++ [.master m.addr] }
  | knownMaster (s : Core) (m m' : Master) (h : m' ∈ s.masters) (ha : m'.addr = m.addr) :
    Called sys s (.insertMaster m) s
  | removeMaster (s : Core) (m : Master) (ms : List Master) (ps : List Pending)
      (h : s.masters.Perm (m :: ms)) (hp : Without (.master m.addr) s.pending ps) :
    Called sys s (.removeMaster m.addr) { s with masters := ms, pending := ps }
  | unknownMaster (s : Core) (a : SocketAddr) (ps : List Pending) (h : ∀ m ∈ s.masters, m.addr ≠ a)
      (hp : Without (.master a) s.pending ps) :
    Called sys s (.removeMaster a) { s with pending := ps }
  | insertServer (s : Core) (server : Server) (h : s.connections server.addr = none) :
    Called sys s (.insertServer server)
      { (s.record [.now, .insertServer server.addr]).set server.addr
          (some (.new server.addr server.players (sys.clock s.trace.length))) with
        pending := s.pending ++ [.server server.addr] }
  | knownServer (s : Core) (server : Server) (c : Connection)
      (h : s.connections server.addr = some c) : Called sys s (.insertServer server) s
  | removeServer (s : Core) (a : SocketAddr) (ps : List Pending)
      (hp : Without (.server a) s.pending ps) :
    Called sys s (.removeServer a) { s.set a none with pending := ps }

theorem called_insertMaster (sys : System) {m : Master} {w w' : World Observer}
    (h : insertMaster m w = .ok () w') : Called sys (core w) (.insertMaster m) (core w') := by
  cases hm : w.state.getMaster m.addr with
  | some m' =>
    have hw : insertMaster m w = .ok () w := by
      show Prog.when (w.state.getMaster m.addr).isNone _ w = _
      rw [hm]
      rfl
    cases hw.symm.trans h
    exact Called.knownMaster _ m m' (List.mem_of_find?_eq_some hm)
      (by simpa using List.find?_some hm)
  | none =>
    have hw : insertMaster m w = .ok () ⟨{ w.state with
        pending := w.state.pending ++ [.master m.addr]
        masters := w.state.masters ++ [m] }, w.trace ++ [.insertMaster m.addr]⟩ := by
      show Prog.when (w.state.getMaster m.addr).isNone _ w = _
      rw [hm]
      rfl
    cases hw.symm.trans h
    refine Called.insertMaster (core w) m fun m' hm' => ?_
    simpa using List.find?_eq_none.1 hm m' hm'

theorem called_removeMaster (sys : System) {a : SocketAddr} {w w' : World Observer}
    (h : removeMaster a w = .ok () w') : Called sys (core w) (.removeMaster a) (core w') := by
  have hp := removePending_without w.state (.master a)
  unfold removeMaster Prog.modifyState at h
  dsimp only at h
  rw [removePending_eq] at h
  cases hi : w.state.masters.findIdx? (·.addr == a) with
  | none =>
    rw [hi] at h
    cases h
    refine Called.unknownMaster (core w) a _ (fun m hm => ?_) hp
    simpa using List.findIdx?_eq_none_iff.1 hi m hm
  | some i =>
    rw [hi] at h
    cases h
    obtain ⟨hlt, ha, -⟩ := List.findIdx?_eq_some_iff_getElem.1 hi
    obtain rfl := eq_of_beq ha
    exact Called.removeMaster (core w) _ _ _ (swapRemove_perm hlt) hp

theorem called_insertServer {sys : System} {server : Server} {w w' : World Observer}
    (h : insertServer sys server w = .ok () w') :
    Called sys (core w) (.insertServer server) (core w') := by
  cases hc : w.state.connections.lookup server.addr with
  | some c =>
    have hw : insertServer sys server w = .ok () w := by
      show Prog.when (w.state.connections.lookup server.addr).isNone _ w = _
      rw [hc]
      rfl
    cases hw.symm.trans h
    exact Called.knownServer (core w) server c hc
  | none =>
    have hw : insertServer sys server w = .ok () ⟨{ w.state with
        pending := w.state.pending ++ [.server server.addr]
        connections := w.state.connections.insert server.addr
          (.new server.addr server.players (sys.clock w.trace.length)) },
        w.trace ++ [.now] ++ [.insertServer server.addr]⟩ := by
      show Prog.when (w.state.connections.lookup server.addr).isNone _ w = _
      rw [hc]
      rfl
    cases hw.symm.trans h
    have hmove := @Called.insertServer sys (core w) server hc
    have hcore := core_insert { w.state with pending := w.state.pending ++ [.server server.addr] }
      server.addr ⟨.new server.addr server.players (sys.clock w.trace.length),
        w.trace ++ [.now] ++ [.insertServer server.addr]⟩
    rw [hcore, List.append_assoc]
    exact hmove

theorem called_removeServer (sys : System) {a : SocketAddr} {w w' : World Observer}
    (h : removeServer a w = .ok () w') : Called sys (core w) (.removeServer a) (core w') := by
  have hp := removePending_without w.state (.server a)
  unfold removeServer Prog.modifyState at h
  dsimp only at h
  rw [removePending_eq] at h
  cases h
  have hmove := @Called.removeServer sys (core w) a _ hp
  unfold Core.set at hmove
  rw [show (core w).connections = w.state.connections.lookup from rfl, ← lookup_erase_eq] at hmove
  exact hmove

theorem called_of_run {sys : System} {c : Call} {w w' : World Observer}
    (h : c.run sys w = .ok () w') : Called sys (core w) c (core w') := by
  cases c with
  | setFilterRaw filter =>
    cases h
    exact Called.setFilterRaw (core w) filter
  | insertMaster m => exact called_insertMaster sys h
  | removeMaster a => exact called_removeMaster sys h
  | insertServer server => exact called_insertServer h
  | removeServer a => exact called_removeServer sys h

/-! ## Runs -/

/-- What a consumer does, and what it is told. -/
inductive Record where
  | call (c : Call)
  | event (e : Event)
  /-- `waitEvent` fails with an I/O error. -/
  | failed
  deriving DecidableEq

/-- The observer after what a consumer did and was told. A wait that panics ends a run, and one that
does not return belongs to none. -/
inductive Run (sys : System) : List Record → World Observer → Prop
  | bind : Run sys [] ⟨Observer.bind (sys.clock 0), [.now]⟩
  | call {rs : List Record} {w w' : World Observer} (c : Call) (h : Run sys rs w)
      (hcall : c.run sys w = .ok () w') : Run sys (rs ++ [.call c]) w'
  | event {rs : List Record} {w w' : World Observer} (turns : ℕ) (timeout : Option ℕ) (e : Event)
      (h : Run sys rs w) (hwait : waitEvent sys turns timeout w = .ok e w') :
    Run sys (rs ++ [.event e]) w'
  | failed {rs : List Record} {w w' : World Observer} (turns : ℕ) (timeout : Option ℕ)
      (h : Run sys rs w) (hwait : waitEvent sys turns timeout w = .error .io w') :
    Run sys (rs ++ [.failed]) w'

section Preserved

variable {sys : System} {P Q : List Record → Core → Prop}

/-- Every call and every move preserves a property: `P` between the waits, and `Q` in a wait. -/
structure Preserved (sys : System) (P Q : List Record → Core → Prop) : Prop where
  bind : P [] (core ⟨Observer.bind (sys.clock 0), [.now]⟩)
  called : ∀ rs s c s', P rs s → Called sys s c s' → P (rs ++ [.call c]) s'
  enter : ∀ rs s, P rs s → Q rs s
  silent : ∀ rs s s', Q rs s → Move sys s none s' → Q rs s'
  event : ∀ rs s e s', Q rs s → Move sys s (some e) s' → P (rs ++ [.event e]) s'
  failed : ∀ rs s, Q rs s → P (rs ++ [.failed]) s

theorem Preserved.moves (h : Preserved sys P Q) {rs : List Record} {s s' : Core} (hs : Q rs s)
    (hmoves : Moves sys s s') : Q rs s' := by
  induction hmoves with
  | refl => exact hs
  | tail _ hmove ih => exact h.silent rs _ _ ih hmove

/-- An event is returned by a move from a state that has the property. -/
theorem Preserved.returned (h : Preserved sys P Q) (rs : List Record) {w w' : World Observer}
    (hw : P rs (core w)) {turns : ℕ} {timeout : Option ℕ} {e : Event}
    (hwait : waitEvent sys turns timeout w = .ok e w') :
    ∃ s, Q rs s ∧ Move sys s (some e) (core w') := by
  obtain ⟨s, hmoves, hmove⟩ := (triple_waitEvent turns timeout).ok
    (Relation.ReflTransGen.refl : Reached sys (core w) w) hwait
  exact ⟨s, h.moves (h.enter rs _ hw) hmoves, hmove⟩

/-- Invariants over runs. -/
theorem Preserved.run (h : Preserved sys P Q) {rs : List Record} {w : World Observer}
    (hrun : Run sys rs w) : P rs (core w) := by
  induction hrun with
  | bind => exact h.bind
  | call c _ hcall ih => exact h.called _ _ c _ ih (called_of_run hcall)
  | event turns timeout e _ hwait ih =>
    obtain ⟨s, hs, hmove⟩ := h.returned _ ih hwait
    exact h.event _ s e _ hs hmove
  | @failed _ w _ turns timeout _ hwait ih =>
    have hmoves := (triple_waitEvent turns timeout).error
      (Relation.ReflTransGen.refl : Reached sys (core w) w) hwait rfl
    exact h.failed _ _ (h.moves (h.enter _ _ ih) hmoves)

/-- An invariant that does not mention the records. -/
theorem Preserved.of_invariant {I : Core → Prop}
    (hbind : I (core ⟨Observer.bind (sys.clock 0), [.now]⟩))
    (hcall : ∀ s c s', I s → Called sys s c s' → I s')
    (hmove : ∀ s out s', I s → Move sys s out s' → I s') :
    Preserved sys (fun _ => I) (fun _ => I) where
  bind := hbind
  called _ := hcall
  enter _ _ h := h
  silent _ s := hmove s none
  event _ s e := hmove s (some e)
  failed _ _ h := h

end Preserved

/-! ## Addresses -/

/-- Every connection has the address it is kept under. -/
def Addressed (s : Core) : Prop := ∀ a c, s.connections a = some c → c.address = a

theorem Addressed.set {s : Core} (h : Addressed s) {a : SocketAddr} {c : Option Connection}
    (hc : ∀ c', c = some c' → c'.address = a) {s' : Core}
    (hs' : s'.connections = Function.update s.connections a c) : Addressed s' := by
  intro b c' hb
  rw [hs'] at hb
  by_cases hba : b = a
  · subst hba
    rw [Function.update_self] at hb
    exact hc c' hb
  · rw [Function.update_of_ne hba] at hb
    exact h b c' hb

theorem addressed_preserved (sys : System) :
    Preserved sys (fun _ => Addressed) (fun _ => Addressed) := by
  refine Preserved.of_invariant (by rintro a c ⟨⟩) (fun s c s' h hcall => ?_)
    fun s out s' h hmove => ?_
  · cases hcall with
    | insertServer server hnone =>
      refine h.set (fun c' hc' => ?_) rfl
      cases hc'
      rfl
    | removeServer => exact h.set (fun c' hc' => by cases hc') rfl
    | _ => exact h
  · cases hmove with
    | ask ps a c packet ok hc =>
      refine h.set (fun c' hc' => ?_) rfl
      cases hc'
      exact h a c hc
    | touch a c c' hc hsame =>
      refine h.set (fun c'' hc'' => ?_) rfl
      cases hc''
      exact (Connection.SameInfo.address hsame).trans (h a c hc)
    | cleanup => exact h.set (fun c' hc' => by cases hc') rfl
    | info a c c' data i hs hdata haddr =>
      refine h.set (fun c'' hc'' => ?_) rfl
      cases hc''
      exact haddr.trans (h a c hs.connection)
    | legacy a c data hs =>
      refine h.set (fun c' hc' => ?_) rfl
      cases hc'
      exact h a c hs.connection
    | invalidProtocol => exact h.set (fun c' hc' => by cases hc') rfl
    | packet a c c' data out hs _ _ hsame =>
      refine h.set (fun c'' hc'' => ?_) rfl
      cases hc''
      exact (Connection.SameInfo.address hsame).trans (h a c hs.connection)
    | _ => exact h

/-! ## Returned events -/

/-- The events a move returns. -/
def told (out : Option Event) : List Record := out.toList.map .event

theorem handleMasterPacket_cases {m : SocketAddr} {data : Bytes} {key : UInt32} {e : Event}
    (h : handleMasterPacket m data key = some e) :
    (∃ r, e = .serverList m r) ∨ (∃ i, e = .serverInfo i) ∨ e = .masterInvalidPacket m data := by
  unfold handleMasterPacket at h
  cases hd : QueryServersResponse.decode data with
  | ok response =>
    rw [hd] at h
    dsimp only at h
    split_ifs at h
    cases h
    exact Or.inl ⟨response, rfl⟩
  | error err =>
    rw [hd] at h
    dsimp only at h
    split at h <;> cases h
    · exact Or.inr (Or.inl ⟨_, rfl⟩)
    · exact Or.inr (Or.inr rfl)

theorem handleMasterPacket_serverList {m : Master} {data : Bytes} {a : SocketAddr}
    {r : QueryServersResponse}
    (h : handleMasterPacket m.addr data m.key = some (.serverList a r)) :
    a = m.addr ∧ QueryServersResponse.decode data = .ok r ∧ r.key = some m.key := by
  unfold handleMasterPacket at h
  cases hd : QueryServersResponse.decode data with
  | ok response =>
    rw [hd] at h
    dsimp only at h
    split_ifs at h with hkey
    cases h
    exact ⟨rfl, rfl, not_not.1 hkey⟩
  | error e =>
    rw [hd] at h
    dsimp only at h
    split at h <;> cases h

/-- Lists of servers are datagrams of masters. -/
theorem Move.serverList {sys : System} {s s' : Core} {out : Option Event} {a : SocketAddr}
    {r : QueryServersResponse} (hmove : Move sys s out s') (h : out = some (.serverList a r)) :
    ∃ m ∈ s.masters, ∃ data, m.addr = a ∧ s.Listens ∧ s' = s.record [.recv a data] ∧
      QueryServersResponse.decode data = .ok r ∧ r.key = some m.key := by
  cases hmove with
  | masterPacket m data hs hm =>
    obtain ⟨rfl, hdata, hkey⟩ := handleMasterPacket_serverList h
    exact ⟨m, List.mem_of_find?_eq_some hm, data, rfl, hs, rfl, hdata, hkey⟩
  | pop e => cases e <;> cases h
  | packet _ _ _ _ _ _ _ _ _ hout => rcases hout with rfl | ⟨_, rfl⟩ | rfl <;> cases h
  | _ => cases h

/-! ## Evaluating runs -/

/-- What a program returns, if it does, and the state then. -/
def returned {ε σ α : Type} (r : EStateM.Result ε σ α) : Option (α × σ) :=
  match r with
  | .ok a s => some (a, s)
  | .error _ _ => none

theorem exists_of_returned {ε σ α β : Type} {r : EStateM.Result ε σ α} {f : α × σ → β} {x : β}
    (h : (returned r).map f = some x) : ∃ a s, r = .ok a s ∧ f (a, s) = x := by
  cases r with
  | ok a s =>
    cases h
    exact ⟨a, s, rfl, rfl⟩
  | error => cases h

end Observer

end Xash3d
