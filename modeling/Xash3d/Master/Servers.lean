import Xash3d.Master.Run

/-!
# The servers of a master server

What a packet can do to the registered servers: `lookup_servers` for the entry of one address, and
`length_serversOf_le` for the number of valid entries of an IP address.
-/

namespace Xash3d.MasterServer

open Lib AddrExt

variable {Addr Ip : Type} [AddrExt Addr Ip] [DecidableEq Addr] [DecidableEq Ip]
  {blake2b : HashConfig → Bytes → Bytes} {s s' : MasterServer Addr Ip} {x : Packet Addr}
  {A : Addr} {i : Ip} {t t' : RelativeTime}

/-! ## The entry of an address -/

/-- The entry of an address leaves: it is expired, or its IP address gets banned. -/
def Leaves (blake2b : HashConfig → Bytes → Bytes) (s s' : MasterServer Addr Ip) (x : Packet Addr)
    (A : Addr) : Prop :=
  s'.servers.lookup A = none ∧
    ((∃ i, s.servers.view (x.env.now i) A = none) ∨
      (∃ e msg, Executes blake2b s x e msg) ∧ ip A ∉ s.blocklist ∧ ip A ∈ s'.blocklist)

/-- Adding a server leaves the entries of other addresses, unless they are expired. -/
theorem lookup_addServer_ne (env : Env Addr) (s : MasterServer Addr Ip) {addr : Addr}
    (server : ServerInfo) (hA : A ≠ addr) :
    (s.addServer env addr server).servers.lookup A = s.servers.lookup A ∨
      (s.addServer env addr server).servers.lookup A = none ∧
        ∃ i, s.servers.view (env.now i) A = none := by
  have hs := (TimedHashMap.sweep_entry s.servers addr (env.now 2)).eq_or_view_eq_none A
  have hs' : (s.servers.entry addr (env.now 2)).2.lookup A = s.servers.lookup A ∨
      (s.servers.entry addr (env.now 2)).2.lookup A = none ∧
        ∃ i, s.servers.view (env.now i) A = none :=
    hs.imp_right fun h => ⟨h.1, 2, h.2⟩
  rcases addServer_cases env s addr server with ⟨-, h⟩ | ⟨-, ⟨-, h⟩ | ⟨-, h⟩⟩ <;> rw [h]
  · rw [TimedHashMap.lookup_entryInsert, Function.update_of_ne hA]
    exact hs'
  · exact hs'
  · have ht : (s.servers.entry addr (env.now 2)).2.timeout = s.servers.timeout :=
      TimedHashMap.timeout_entry
    have hi := (TimedHashMap.sweep_insert (s.servers.entry addr (env.now 2)).2 addr server
      (env.now 4) (env.now 5)).eq_or_view_eq_none A
    rw [Lifetime.view, Function.update_of_ne hA, ← Lifetime.view] at hi
    rcases hi with hi | ⟨hi, hv⟩
    · rw [hi]
      exact hs'
    · refine Or.inr ⟨hi, ?_⟩
      rcases hs with hs | hs
      · refine ⟨5, ?_⟩
        rw [← hv, ht]
        unfold TimedHashMap.view Lifetime.view
        rw [hs]
      · exact ⟨2, hs.2⟩

/-- The entry of a server that is added. -/
theorem lookup_addServer_self (env : Env Addr) (s : MasterServer Addr Ip) (addr : Addr)
    (server : ServerInfo) :
    (∃ i, (s.addServer env addr server).servers.lookup addr = some ⟨env.now i, server⟩) ∨
      (s.addServer env addr server).servers.lookup addr = none ∧
        ∃ i, s.servers.view (env.now i) addr = none := by
  rcases addServer_cases env s addr server with ⟨-, h⟩ | ⟨hv, ⟨-, h⟩ | ⟨-, h⟩⟩ <;> rw [h]
  · refine Or.inl ⟨3, ?_⟩
    rw [TimedHashMap.lookup_entryInsert, Function.update_self]
  · exact Or.inr ⟨(TimedHashMap.lookup_entry_self _ _ _).trans hv, 2, hv⟩
  · rcases (TimedHashMap.sweep_insert (s.servers.entry addr (env.now 2)).2 addr server
      (env.now 4) (env.now 5)).eq_or_view_eq_none addr with hi | ⟨hi, -⟩
    · refine Or.inl ⟨4, ?_⟩
      rw [hi, Function.update_self]
    · exact Or.inr ⟨hi, 2, hv⟩

/-- A ban removes the entries of its IP address, and what is expired. -/
theorem lookup_banIp (s : MasterServer Addr Ip) (i : Ip) (t : RelativeTime) (A : Addr) :
    (s.banIp i t).servers.lookup A = s.servers.lookup A ∨
      (s.banIp i t).servers.lookup A = none ∧
        (s.servers.view t A = none ∨ ip A ∉ s.blocklist ∧ ip A ∈ (s.banIp i t).blocklist) := by
  unfold banIp
  split_ifs with hi
  · exact Or.inl rfl
  · show (s.servers.retain t _).lookup A = _ ∨ (s.servers.retain t _).lookup A = none ∧
      (s.servers.view t A = none ∨ ip A ∉ s.blocklist ∧ ip A ∈ insert i s.blocklist)
    rw [TimedHashMap.lookup_retain]
    cases hl : s.servers.lookup A with
    | none => exact Or.inl rfl
    | some e =>
      dsimp only [Option.bind_some]
      split_ifs with hv hA
      · exact Or.inl rfl
      · refine Or.inr ⟨rfl, Or.inr ?_⟩
        rw [not_ne_iff.1 hA]
        exact ⟨hi, Finset.mem_insert_self _ _⟩
      · refine Or.inr ⟨rfl, Or.inl ?_⟩
        refine Lifetime.view_eq_none.2 fun e' he' => ?_
        obtain rfl : e = e' := Option.some.inj (hl.symm.trans he')
        exact eq_false_of_ne_true hv

omit [DecidableEq Addr] in
theorem blocklist_subset_banIp (s : MasterServer Addr Ip) (i : Ip) (t : RelativeTime) :
    s.blocklist ⊆ (s.banIp i t).blocklist := by
  unfold banIp
  split_ifs
  · exact Finset.Subset.refl _
  · exact Finset.subset_insert _ _

omit [DecidableEq Addr] in
theorem blocklist_subset_bans (now : ℕ → RelativeTime) (args : List Bytes) :
    ∀ (n : ℕ) (s : MasterServer Addr Ip),
      s.blocklist ⊆ (forEachIp banIp now n args s).blocklist := by
  induction args with
  | nil => exact fun _ _ => Finset.Subset.refl _
  | cons arg args ih =>
    intro n s
    rw [forEachIp]
    split
    · exact (blocklist_subset_banIp _ _ _).trans (ih _ _)
    · exact ih _ _

/-- What the arguments of a ban command do to an entry. -/
theorem lookup_bans (now : ℕ → RelativeTime) (args : List Bytes) (A : Addr) :
    ∀ (n : ℕ) (s : MasterServer Addr Ip),
    (forEachIp banIp now n args s).servers.lookup A = s.servers.lookup A ∨
      (forEachIp banIp now n args s).servers.lookup A = none ∧
        ((∃ i, s.servers.view (now i) A = none) ∨
          ip A ∉ s.blocklist ∧ ip A ∈ (forEachIp banIp now n args s).blocklist) := by
  induction args with
  | nil => exact fun _ _ => Or.inl rfl
  | cons arg args ih =>
    intro n s
    rw [forEachIp]
    split
    · rename_i i _
      have hsub := blocklist_subset_bans now args (n + 1) (s.banIp i (now n))
      rcases lookup_banIp s i (now n) A with h1 | ⟨h1, hr⟩
      · rcases ih (n + 1) (s.banIp i (now n)) with h2 | ⟨h2, ⟨j, hj⟩ | ⟨hn, hb⟩⟩
        · exact Or.inl (h2.trans h1)
        · refine Or.inr ⟨h2, Or.inl ⟨j, ?_⟩⟩
          rw [← hj]
          unfold TimedHashMap.view Lifetime.view
          rw [h1, timeout_banIp]
        · exact Or.inr ⟨h2, Or.inr ⟨fun h => hn (blocklist_subset_banIp _ _ _ h), hb⟩⟩
      · have h2 : (forEachIp banIp now (n + 1) args (s.banIp i (now n))).servers.lookup A = none := by
          rcases ih (n + 1) (s.banIp i (now n)) with h2 | ⟨h2, -⟩
          · exact h2.trans h1
          · exact h2
        refine Or.inr ⟨h2, ?_⟩
        rcases hr with hr | ⟨hn, hb⟩
        · exact Or.inl ⟨n, hr⟩
        · exact Or.inr ⟨hn, hsub hb⟩
    · exact ih _ _

omit [DecidableEq Addr] in
/-- Lifting a ban leaves the servers. -/
theorem servers_unbans (now : ℕ → RelativeTime) (args : List Bytes) :
    ∀ (n : ℕ) (s : MasterServer Addr Ip), (forEachIp unbanIp now n args s).servers = s.servers := by
  induction args with
  | nil => exact fun _ _ => rfl
  | cons arg args ih =>
    intro n s
    rw [forEachIp]
    split
    · exact ih _ _
    · exact ih _ _

theorem lookup_executed (s : MasterServer Addr Ip) (x : Packet Addr) (msg : AdminCommand)
    (A : Addr) :
    (s.executed x msg).servers.lookup A = s.servers.lookup A ∨
      (s.executed x msg).servers.lookup A = none ∧
        ((∃ i, s.servers.view (x.env.now i) A = none) ∨
          ip A ∉ s.blocklist ∧ ip A ∈ (s.executed x msg).blocklist) := by
  show (s.adminCommand x.env msg.command).servers.lookup A = _ ∨
    (s.adminCommand x.env msg.command).servers.lookup A = none ∧
      (_ ∨ _ ∧ ip A ∈ (s.adminCommand x.env msg.command).blocklist)
  unfold adminCommand
  split
  · exact Or.inl rfl
  · split_ifs
    · exact lookup_bans _ _ _ _ _
    · exact Or.inl (by rw [servers_unbans])
    · exact Or.inl rfl

/-- What a packet that is no registration can do to an entry. -/
theorem lookup_servers (he : Effect blake2b s x s')
    (hA : ∀ msg e, ¬ (x.peer = A ∧ Registers s x msg e)) :
    s'.servers.lookup A = s.servers.lookup A ∨ Leaves blake2b s s' x A := by
  cases he with
  | none => exact Or.inl rfl
  | challenge msg hd => exact Or.inl rfl
  | expired msg hd hr => exact Or.inl rfl
  | add msg e hr =>
    have hne : A ≠ x.peer := fun h => hA msg e ⟨h.symm, hr⟩
    rcases lookup_addServer_ne x.env { s with
      challenges := (s.challenges.remove x.peer (x.env.now 1)).2 } (.new msg) hne with h | ⟨h, hv⟩
    · exact Or.inl h
    · exact Or.inr ⟨h, Or.inl hv⟩
  | game gamedirs filtered nat hg => exact Or.inl rfl
  | adminChallenge hd ha => exact Or.inl rfl
  | adminCommand e msg hx =>
    exact (lookup_executed s x msg A).imp_right fun h => ⟨h.1, h.2.imp_right fun hb => ⟨⟨e, msg, hx⟩, hb⟩⟩
  | adminRefused e msg hx => exact Or.inl rfl

/-! ## The entries of an IP address -/

theorem mem_serversOf :
    A ∈ s.serversOf t i ↔ ip A = i ∧ ∃ e, s.servers.view t A = some e := by
  unfold serversOf
  rw [List.mem_filter, TimedHashMap.mem_keys, decide_eq_true_eq, and_comm]

omit [DecidableEq Addr] in
theorem nodup_serversOf (s : MasterServer Addr Ip) (t : RelativeTime) (i : Ip) :
    (s.serversOf t i).Nodup := (TimedHashMap.nodup_keys _ _).filter _

/-- The number of valid entries of an IP address depends on what readers see. -/
theorem length_serversOf_le
    (h : ∀ A, ip A = i → (∃ e, s'.servers.view t' A = some e) → ∃ e, s.servers.view t A = some e) :
    (s'.serversOf t' i).length ≤ (s.serversOf t i).length := by
  refine ((nodup_serversOf s' t' i).subperm ?_).length_le
  intro A hA
  obtain ⟨hi, he⟩ := mem_serversOf.1 hA
  exact mem_serversOf.2 ⟨hi, h A hi he⟩

/-- At most one valid entry was added. -/
theorem length_serversOf_le_succ {B : Addr}
    (h : ∀ A, A ≠ B → ip A = i → (∃ e, s'.servers.view t' A = some e) →
      ∃ e, s.servers.view t A = some e) :
    (s'.serversOf t' i).length ≤ (s.serversOf t i).length + 1 := by
  have hsub : s'.serversOf t' i ⊆ B :: s.serversOf t i := by
    intro A hA
    obtain ⟨hi, he⟩ := mem_serversOf.1 hA
    by_cases hB : A = B
    · rw [hB]
      exact List.mem_cons_self
    · exact List.mem_cons_of_mem _ (mem_serversOf.2 ⟨hi, h A hB hi he⟩)
  exact ((nodup_serversOf s' t' i).subperm hsub).length_le

/-- The lookup of an entry before a server is added removes no valid entry. -/
theorem length_serversOf_entry (s : MasterServer Addr Ip) (addr : Addr) (ht : t ≤ t') (i : Ip) :
    ({ s with servers := (s.servers.entry addr t).2 }.serversOf t' i).length =
      (s.serversOf t' i).length := by
  have hv : (s.servers.entry addr t).2.view t' = s.servers.view t' := TimedHashMap.view_entry ht
  refine le_antisymm (length_serversOf_le ?_) (length_serversOf_le ?_)
  · intro A _ he
    rwa [← hv]
  · intro A _ he
    rwa [← hv] at he

/-- Neither does it change the count. -/
theorem countServers_entry (s : MasterServer Addr Ip) (addr : Addr) (ht : t ≤ t') (i : Ip) :
    ({ s with servers := (s.servers.entry addr t).2 }.countServers t' i) = s.countServers t' i :=
  congrArg UInt16.ofNat (length_serversOf_entry s addr ht i)

omit [DecidableEq Addr] in
/-- The count of few servers is not truncated. -/
theorem toNat_countServers (h : (s.serversOf t i).length < 2 ^ 16) :
    (s.countServers t i).toNat = (s.serversOf t i).length :=
  Nat.mod_eq_of_lt h

end Xash3d.MasterServer
