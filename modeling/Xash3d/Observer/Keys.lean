import Xash3d.Observer.Run

/-!
# Keys of masters

A new master has a key that was not drawn, and a pending query. A pending query draws a key, so when
nothing is pending every master has the last key that was drawn for it since it was inserted. The
observer listens only when nothing is pending, and a list of servers is taken only with the key of
its master (`server_list_authentic`).
-/

namespace Xash3d

open Lib

/-- Keys are drawn and masters inserted by such actions. -/
def Action.isKey : Action → Bool
  | draw _ _ | insertMaster _ => true
  | _ => false

theorem Action.not_isKey_of_isPlain {x : Action} (h : x.isPlain = true) : x.isKey = false := by
  cases x <;> first | rfl | cases h

namespace Observer

/-- The key of a master is the last one that was drawn for it, after its insertion. -/
def Drawn (tr : List Action) (m : Master) : Prop :=
  ∃ u v, tr = u ++ .draw m.addr m.key :: v ∧ (∀ key, Action.draw m.addr key ∉ v) ∧
    .insertMaster m.addr ∈ u ∧ .insertMaster m.addr ∉ v

theorem Drawn.append {tr : List Action} {m : Master} (h : Drawn tr m) {as : List Action}
    (hdraw : ∀ key, Action.draw m.addr key ∉ as) (hinsert : .insertMaster m.addr ∉ as) :
    Drawn (tr ++ as) m := by
  obtain ⟨u, v, rfl, hv, hu, hvi⟩ := h
  refine ⟨u, v ++ as, by simp, ?_, hu, ?_⟩
  · intro key hmem
    exact (List.mem_append.1 hmem).elim (hv key) (hdraw key)
  · intro hmem
    exact (List.mem_append.1 hmem).elim hvi hinsert

theorem drawn_draw {tr : List Action} {a : SocketAddr} (h : .insertMaster a ∈ tr) (key : UInt32) :
    Drawn (tr ++ [.draw a key]) ⟨a, key⟩ :=
  ⟨tr, [], rfl, by simp, h, by simp⟩

/-- Every master has a pending query or the last key that was drawn for it. -/
structure Keys (s : Core) : Prop where
  nodup : (s.masters.map (·.addr)).Nodup
  inserted : ∀ m ∈ s.masters, .insertMaster m.addr ∈ s.trace
  drawn : ∀ m ∈ s.masters, .master m.addr ∈ s.pending ∨ Drawn s.trace m

/-- The masters of other addresses keep their pending queries. -/
def KeepsPending (s s' : Core) : Prop :=
  ∀ m ∈ s.masters, .master m.addr ∈ s.pending → .master m.addr ∈ s'.pending

theorem Keys.keep {s s' : Core} (h : Keys s) (hm : s'.masters = s.masters)
    (hp : KeepsPending s s') {as : List Action} (ht : s'.trace = s.trace ++ as)
    (has : ∀ x ∈ as, x.isKey = false) : Keys s' := by
  refine ⟨hm ▸ h.nodup, ?_, ?_⟩
  · intro m hmem
    rw [ht]
    exact List.mem_append_left _ (h.inserted m (hm ▸ hmem))
  · intro m hmem
    rw [hm] at hmem
    refine (h.drawn m hmem).imp (hp m hmem) fun hd => ?_
    rw [ht]
    refine hd.append (fun key hkey => ?_) fun hinsert => ?_
    · cases has _ hkey
    · cases has _ hinsert

/-- A new key leaves the addresses of the masters as they are. -/
theorem map_addr_set {ms : List Master} {i : ℕ} {m : Master} (hi : ms[i]? = some m)
    (key : UInt32) : (ms.set i { m with key }).map (·.addr) = ms.map (·.addr) := by
  obtain ⟨hlt, rfl⟩ := List.getElem?_eq_some_iff.1 hi
  have hset := @List.set_getElem_self _ (ms.map (·.addr)) i (by simpa using hlt)
  rw [List.getElem_map] at hset
  rw [List.map_set]
  exact hset

/-- A master gets a new key. -/
theorem Keys.draw {s : Core} (h : Keys s) {i : ℕ} {m : Master} (hi : s.masters[i]? = some m)
    (key : UInt32) {ps : List Pending}
    (hp : ∀ a, a ≠ m.addr → .master a ∈ s.pending → .master a ∈ ps) :
    Keys { s.record [.draw m.addr key] with
      pending := ps, masters := s.masters.set i { m with key } } := by
  have hmem : m ∈ s.masters := List.mem_of_getElem? hi
  have hnodup : ((s.masters.set i { m with key }).map (·.addr)).Nodup := by
    rw [map_addr_set hi]
    exact h.nodup
  refine ⟨hnodup, ?_, ?_⟩
  · intro m' hm'
    refine List.mem_append_left _ ?_
    rcases List.mem_or_eq_of_mem_set hm' with hold | rfl
    · exact h.inserted m' hold
    · exact h.inserted m hmem
  · intro m' hm'
    by_cases ha : m'.addr = m.addr
    · -- the addresses differ, so it is the master with the new key
      have hnew : { m with key } ∈ s.masters.set i { m with key } := by
        obtain ⟨hlt, -⟩ := List.getElem?_eq_some_iff.1 hi
        exact List.mem_set hlt _
      obtain rfl := List.inj_on_of_nodup_map hnodup hm' hnew ha
      exact Or.inr (drawn_draw (h.inserted m hmem) key)
    · have hold : m' ∈ s.masters := by
        rcases List.mem_or_eq_of_mem_set hm' with hold | rfl
        · exact hold
        · exact absurd rfl ha
      refine (h.drawn m' hold).imp (hp _ ha) fun hd => hd.append (fun key' hkey => ?_) (by simp)
      rw [List.mem_singleton] at hkey
      exact ha (Action.draw.inj hkey).1

theorem Keys.insertMaster {s : Core} (h : Keys s) {m : Master}
    (hm : ∀ m' ∈ s.masters, m'.addr ≠ m.addr) :
    Keys { s.record [.insertMaster m.addr] with
      masters := s.masters ++ [m], pending := s.pending ++ [.master m.addr] } := by
  refine ⟨?_, ?_, ?_⟩
  · rw [List.map_append, List.map_singleton, List.nodup_append]
    refine ⟨h.nodup, List.nodup_singleton _, ?_⟩
    intro a ha b hb
    obtain ⟨m', hm', rfl⟩ := List.mem_map.1 ha
    rw [List.mem_singleton.1 hb]
    exact hm m' hm'
  · intro m' hm'
    rcases List.mem_append.1 hm' with hold | hnew
    · exact List.mem_append_left _ (h.inserted m' hold)
    · rw [List.mem_singleton.1 hnew]
      exact List.mem_append_right _ (List.mem_singleton_self _)
  · intro m' hm'
    rcases List.mem_append.1 hm' with hold | hnew
    · refine (h.drawn m' hold).imp (List.mem_append_left _) fun hd => hd.append (by simp) ?_
      intro hmem
      rw [List.mem_singleton] at hmem
      exact hm m' hold (Action.insertMaster.inj hmem)
    · rw [List.mem_singleton.1 hnew]
      exact Or.inl (List.mem_append_right _ (List.mem_singleton_self _))

theorem Keys.removeMaster {s : Core} (h : Keys s) {m : Master} {ms : List Master}
    (hms : s.masters.Perm (m :: ms)) {ps : List Pending}
    (hp : Without (.master m.addr) s.pending ps) :
    Keys { s with masters := ms, pending := ps } := by
  have hnodup : ((m :: ms).map (·.addr)).Nodup := (hms.map (·.addr)).nodup_iff.1 h.nodup
  have hsub : ∀ m' ∈ ms, m' ∈ s.masters := fun m' hm' => hms.mem_iff.2 (List.mem_cons_of_mem _ hm')
  refine ⟨(List.nodup_cons.1 hnodup).2, fun m' hm' => h.inserted m' (hsub m' hm'), ?_⟩
  intro m' hm'
  refine (h.drawn m' (hsub m' hm')).imp_left fun hpending => hp.2 _ hpending fun heq => ?_
  exact (List.nodup_cons.1 hnodup).1 (List.mem_map.2 ⟨m', hm', Pending.master.inj heq⟩)

theorem Keys.move {sys : System} {s s' : Core} {out : Option Event} (h : Keys s)
    (hmove : Move sys s out s') : Keys s' := by
  have hrefl : ∀ s' : Core, s'.pending = s.pending → KeepsPending s s' :=
    fun s' heq m _ hm => heq ▸ hm
  cases hmove with
  | plain x hx =>
    refine h.keep rfl (hrefl _ rfl) rfl ?_
    simpa using Action.not_isKey_of_isPlain hx
  | draw i m hi key => exact h.draw hi key fun a _ ha => ha
  | takeMaster ps i m hi hp key =>
    refine h.draw hi key fun a ha hmem => ?_
    rw [hp] at hmem
    refine (List.mem_append.1 hmem).resolve_right fun hlast => ha ?_
    exact Pending.master.inj (List.mem_singleton.1 hlast)
  | dropMaster ps a hp hm =>
    refine h.keep rfl (fun m hmem hpending => ?_) (List.append_nil _).symm (by simp)
    rw [hp] at hpending
    refine (List.mem_append.1 hpending).resolve_right fun hlast => hm m hmem ?_
    exact Pending.master.inj (List.mem_singleton.1 hlast)
  | dropServer ps a hp =>
    refine h.keep rfl (fun m _ hpending => ?_) (List.append_nil _).symm (by simp)
    rw [hp] at hpending
    exact (List.mem_append.1 hpending).resolve_right (by simp)
  | ask ps a c packet ok _ hp =>
    refine h.keep rfl (fun m _ hpending => ?_) rfl (by simp [Action.isKey])
    rcases hp with rfl | hp
    · exact hpending
    · rw [hp] at hpending
      exact (List.mem_append.1 hpending).resolve_right (by simp)
  | touch => exact h.keep rfl (hrefl _ rfl) (List.append_nil _).symm (by simp)
  | tick => exact h.keep rfl (hrefl _ rfl) rfl (by simp [Action.isKey])
  | report => exact h.keep rfl (hrefl _ rfl) (List.append_nil _).symm (by simp)
  | cleanup => exact h.keep rfl (hrefl _ rfl) rfl (by simp [Action.isKey])
  | pop => exact h.keep rfl (hrefl _ rfl) (List.append_nil _).symm (by simp)
  | timeout => exact h
  | masterPacket => exact h.keep rfl (hrefl _ rfl) rfl (by simp [Action.isKey])
  | stranger => exact h.keep rfl (hrefl _ rfl) rfl (by simp [Action.isKey])
  | info => exact h.keep rfl (hrefl _ rfl) rfl (by simp [Action.isKey])
  | legacy => exact h.keep rfl (hrefl _ rfl) rfl (by simp [Action.isKey])
  | invalidProtocol => exact h.keep rfl (hrefl _ rfl) rfl (by simp [Action.isKey])
  | packet => exact h.keep rfl (hrefl _ rfl) rfl (by simp [Action.isKey])

theorem Keys.called {sys : System} {s s' : Core} {c : Call} (h : Keys s)
    (hcall : Called sys s c s') : Keys s' := by
  cases hcall with
  | setFilterRaw => exact h
  | insertMaster m hm => exact h.insertMaster hm
  | knownMaster => exact h
  | removeMaster m ms ps hms hp => exact h.removeMaster hms hp
  | unknownMaster a ps hm hp =>
    refine h.keep rfl (fun m hmem hpending => hp.2 _ hpending ?_) (List.append_nil _).symm (by simp)
    exact fun heq => hm m hmem (Pending.master.inj heq)
  | insertServer =>
    refine h.keep rfl (fun m _ hpending => List.mem_append_left _ hpending) rfl ?_
    simp [Action.isKey]
  | knownServer => exact h
  | removeServer a ps hp =>
    exact h.keep rfl (fun m _ hpending => hp.2 _ hpending (by simp)) (List.append_nil _).symm (by simp)

theorem keys_preserved (sys : System) : Preserved sys (fun _ => Keys) (fun _ => Keys) :=
  Preserved.of_invariant ⟨List.nodup_nil, by rintro m ⟨⟩, by rintro m ⟨⟩⟩
    (fun _ _ _ h => h.called) fun _ _ _ h => h.move

/-- A list of servers that is returned came from its master's address while nothing was pending,
with the last key that was drawn for the master, after the master was inserted. -/
theorem server_list_authentic {sys : System} {rs : List Record} {w w' : World Observer}
    (hrun : Run sys rs w) {turns : ℕ} {timeout : Option ℕ} {a : SocketAddr}
    {r : QueryServersResponse}
    (hwait : waitEvent sys turns timeout w = .ok (.serverList a r) w') :
    ∃ u v key data, w'.trace = u ++ .draw a key :: v ++ [.recv a data] ∧
      (∀ key', Action.draw a key' ∉ v) ∧ .insertMaster a ∈ u ∧ .insertMaster a ∉ v ∧
      QueryServersResponse.decode data = .ok r ∧ r.key = some key ∧
      ⟨a, key⟩ ∈ w'.state.masters ∧ w'.state.pending = [] := by
  have hkeys : Keys (core w) := (keys_preserved sys).run hrun
  obtain ⟨s, hs, hmove⟩ := (keys_preserved sys).returned rs hkeys hwait
  obtain ⟨m, hm, data, rfl, hlistens, hs', hdata, hkey⟩ := hmove.serverList rfl
  have hmasters : w'.state.masters = s.masters := congrArg Core.masters hs'
  have hpending : w'.state.pending = s.pending := congrArg Core.pending hs'
  have htrace : w'.trace = s.trace ++ [.recv m.addr data] := congrArg Core.trace hs'
  rcases hs.drawn m hm with hwaits | ⟨u, v, htr, hv, hu, hvi⟩
  · -- the observer does not listen while a query is pending
    rw [hlistens.pending] at hwaits
    cases hwaits
  · refine ⟨u, v, m.key, data, ?_, hv, hu, hvi, hdata, hkey, ?_, ?_⟩
    · rw [htrace, htr]
    · rw [hmasters]
      exact hm
    · rw [hpending]
      exact hlistens.pending

/-- A system where a master answers with the key it was sent. -/
def answeringSystem (master : SocketAddr) : System where
  clock _ := 0
  clock_mono _ _ _ := le_rfl
  rng _ := 5
  send _ := true
  setReadTimeout _ := true
  recv _ := .ok (master, QueryServersResponse.header ++ [0x7f, 5, 0, 0, 0, 8])
  traceEnabled _ := false
  order _ l := l
  order_perm _ l := .refl l

/-- The observer after a master was inserted. -/
def masterWorld (master : SocketAddr) : World Observer :=
  ⟨{ Observer.bind 0 with masters := [⟨master, 0⟩], pending := [.master master] },
    [.now, .insertMaster master]⟩

def masterAddr : SocketAddr := .v4 ⟨⟨⟨[10, 0, 0, 1], rfl⟩⟩, 27010⟩

theorem run_masterWorld : Run (answeringSystem masterAddr)
    [.call (.insertMaster ⟨masterAddr, 0⟩)] (masterWorld masterAddr) :=
  Run.call (.insertMaster ⟨masterAddr, 0⟩) Run.bind rfl

theorem server_list_authentic_one : ∃ w', waitEvent (answeringSystem masterAddr) 1 none
    (masterWorld masterAddr) = .ok (.serverList masterAddr ⟨[], some 5⟩) w' ∧
    ∃ u v key data, w'.trace = u ++ .draw masterAddr key :: v ++ [.recv masterAddr data] ∧
      (∀ key', Action.draw masterAddr key' ∉ v) ∧ .insertMaster masterAddr ∈ u ∧
      .insertMaster masterAddr ∉ v ∧ QueryServersResponse.decode data = .ok ⟨[], some 5⟩ ∧
      some 5 = some key ∧ ⟨masterAddr, key⟩ ∈ w'.state.masters ∧ w'.state.pending = [] := by
  obtain ⟨_, w', hwait, rfl⟩ := exists_of_returned (f := Prod.fst)
    (x := Event.serverList masterAddr ⟨[], some 5⟩)
    (r := waitEvent (answeringSystem masterAddr) 1 none (masterWorld masterAddr)) (by decide +kernel)
  exact ⟨w', hwait, server_list_authentic run_masterWorld hwait⟩

end Observer

end Xash3d
