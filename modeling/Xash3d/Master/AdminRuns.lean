import Xash3d.Lib.Spaced
import Xash3d.Master.AdminDispatch
import Xash3d.Master.Reload

/-!
# Admins over reloads

The pair of challenges an admin answers, and the lockout behind a wrong hash, are followed through
runs with reloads. `pair_of_lookup` says where a pair comes from. A reload keeps the lockouts, so that
guesses of a hash are rare whatever is reloaded: `guesses_bounded`.
-/

namespace Xash3d.MasterServer

open Lib AddrExt

variable {Addr Ip : Type} [AddrExt Addr Ip] [DecidableEq Addr] [DecidableEq Ip]
  {blake2b : HashConfig → Bytes → Bytes} {s : MasterServer Addr Ip} {P : Ip}
  {e : Timed (UInt32 × UInt32)}

/-! ## Pairs of challenges -/

/-- An event handles a packet that has a property. -/
def Handles (s : MasterServer Addr Ip) (p : Packet Addr → Prop) : Event Addr → Prop
  | .arrival y => ∃ peer, y.sender = wrap peer ∧ ip peer ∉ s.blocklist ∧ p ⟨y.env, peer, y.src⟩
  | .reload _ _ => False

omit [DecidableEq Addr] [DecidableEq Ip] in
theorem Handles.mono {p p' : Packet Addr → Prop} {z : Event Addr} (h : Handles s p z)
    (hp : ∀ x, p x → p' x) : Handles s p' z := by
  cases z with
  | reload host cfg => exact h
  | arrival y =>
    obtain ⟨peer, hpeer, hb, hx⟩ := h
    exact ⟨peer, hpeer, hb, hp _ hx⟩

/-- The loop handles the packet of an address that is not banned. -/
theorem turn_arrival {y : Arrival Addr} {peer : Addr} (hp : y.sender = wrap peer)
    (hb : ip peer ∉ s.blocklist) :
    s.turn blake2b (.arrival y) = s.handle blake2b ⟨y.env, peer, y.src⟩ := by
  show (s.receive blake2b y.env y.sender y.src).state = _
  rw [receive_eq hp hb]
  rfl

/-- An event handles a packet, or none. -/
theorem turn_handles (blake2b : HashConfig → Bytes → Bytes) (s : MasterServer Addr Ip)
    (y : Arrival Addr) : (∃ peer, y.sender = wrap peer ∧ ip peer ∉ s.blocklist ∧
      s.turn blake2b (.arrival y) = s.handle blake2b ⟨y.env, peer, y.src⟩) ∨
    s.turn blake2b (.arrival y) = s ∧ ∀ p, ¬ Handles s p (.arrival y) := by
  by_cases h : ∃ peer : Addr, y.sender = wrap peer ∧ ip peer ∉ s.blocklist
  · obtain ⟨peer, hp, hb⟩ := h
    exact Or.inl ⟨peer, hp, hb, turn_arrival hp hb⟩
  · refine Or.inr ⟨?_, ?_⟩
    · rcases step_cases blake2b s y with hs | ⟨peer, hp, hb, -⟩
      · exact hs
      · exact absurd ⟨peer, hp, hb⟩ h
    · rintro p ⟨peer, hp, hb, -⟩
      exact h ⟨peer, hp, hb⟩

/-- The pair of an IP address after an event is issued by it, or was there before; the event then
neither issues another one nor executes a command of the IP address. -/
theorem pair_turn {z : Event Addr} (h : (s.turn blake2b z).adminChallenges.lookup P = some e) :
    Handles s (fun x => AdminIssues s x P e) z ∨ s.adminChallenges.lookup P = some e ∧
      ¬ Handles s (fun x => (∃ e', AdminIssues s x P e') ∨ ExecutesFrom blake2b s x P) z := by
  cases z with
  | reload host cfg =>
    replace h : (s.updateConfig host cfg).1.adminChallenges.lookup P = some e := h
    refine Or.inr ⟨?_, fun h => h⟩
    rcases updateConfig_cases host s cfg with ⟨sock, hc⟩ | ⟨addr, hc | ⟨sock, hc⟩⟩ <;> rw [hc] at h
    · exact h
    · exact h
    · cases h
  | arrival y =>
    rcases turn_handles blake2b s y with ⟨peer, hp, hb, ht⟩ | ⟨ht, hnone⟩
    · rw [ht] at h
      rcases adminChallenge_created h with hissues | ⟨hold, hno, hnox⟩
      · exact Or.inl ⟨peer, hp, hb, hissues⟩
      · refine Or.inr ⟨hold, ?_⟩
        rintro ⟨peer', hp', -, hx⟩
        obtain rfl : peer' = peer := wrap_injective (hp'.symm.trans hp)
        rcases hx with ⟨e', he'⟩ | hx
        · exact hno e' he'
        · exact hnox hx
    · rw [ht] at h
      exact Or.inr ⟨h, hnone _⟩

/-- The pair of an IP address was issued to it by an earlier event. Since then no other pair was
issued to it, and no command of it executed. -/
theorem pair_of_lookup (h0 : s.adminChallenges.lookup P = none) (xs : List (Event Addr))
    (h : (exec (turn blake2b) s xs).adminChallenges.lookup P = some e) :
    ∃ ys y zs, xs = ys ++ y :: zs ∧
      Handles (exec (turn blake2b) s ys) (fun x => AdminIssues (exec (turn blake2b) s ys) x P e) y ∧
      ∀ p z q, zs = p ++ z :: q → ¬ Handles (exec (turn blake2b) s (ys ++ y :: p))
        (fun x => (∃ e', AdminIssues (exec (turn blake2b) s (ys ++ y :: p)) x P e') ∨
          ExecutesFrom blake2b (exec (turn blake2b) s (ys ++ y :: p)) x P) z := by
  exact @exec_provenance _ _ (turn blake2b) s _ (fun s => s.adminChallenges.lookup P)
    (fun s z e => Handles s (fun x => AdminIssues s x P e) z)
    (fun s z _ => ¬ Handles s (fun x => (∃ e', AdminIssues s x P e') ∨ ExecutesFrom blake2b s x P) z)
    h0 (fun _ _ _ h => pair_turn h) xs e h

/-- An event does not take a pair of an IP address away that is issued at a time: no other pair is
issued to it and no command of it executed, before `D` seconds are over; no reload clears the pairs, or
sets a timeout below `D`. -/
def LeavesPair (blake2b : HashConfig → Bytes → Bytes) (D : ℕ) (issued : RelativeTime) (P : Ip)
    (s : MasterServer Addr Ip) : Event Addr → Prop
  | .arrival y =>
    ¬ Handles s (fun x => (∃ e, AdminIssues s x P e) ∨ ExecutesFrom blake2b s x P) (.arrival y) ∧
      ∀ i, (y.env.now i).durationSince issued < D * 1000
  | .reload _ cfg => s.sock = SocketAddr.new cfg.server.ip cfg.server.port ∧
      D ≤ cfg.server.timeout.challenge.toNat

omit [AddrExt Addr Ip] [DecidableEq Addr] [DecidableEq Ip] in
/-- A reload that keeps the socket keeps the maps. -/
theorem updateConfig_keepsMaps {host : Host} {cfg : MasterConfig}
    (h : s.sock = SocketAddr.new cfg.server.ip cfg.server.port) :
    (s.updateConfig host cfg).1 = s ∨
      (s.updateConfig host cfg).1 = s.setConfig host cfg s.sock := by
  unfold updateConfig
  dsimp only
  rw [← h, if_neg (not_not_intro rfl : ¬ s.sock ≠ s.sock)]
  split_ifs
  · exact Or.inl rfl
  · exact Or.inl rfl
  · exact Or.inr rfl

/-- A pair of an IP address that is valid for `D` seconds at least. -/
structure HoldsPair (D : ℕ) (P : Ip) (e : Timed (UInt32 × UInt32)) (s : MasterServer Addr Ip) :
    Prop where
  lookup : s.adminChallenges.lookup P = some e
  timeout : D ≤ s.adminChallenges.timeout.toNat

omit [AddrExt Addr Ip] [DecidableEq Addr] in
theorem HoldsPair.isValid {D : ℕ} (h : HoldsPair D P e s) {t : RelativeTime}
    (ht : t.durationSince e.time < D * 1000) : e.isValid t s.adminChallenges.timeout = true := by
  rw [Timed.isValid_iff]
  exact ht.trans_le (Nat.mul_le_mul_right 1000 h.timeout)

theorem HoldsPair.turn {D : ℕ} {z : Event Addr} (hz : LeavesPair blake2b D e.time P s z)
    (h : HoldsPair D P e s) : HoldsPair D P e (s.turn blake2b z) := by
  cases z with
  | reload host cfg =>
    show HoldsPair D P e (s.updateConfig host cfg).1
    rcases updateConfig_keepsMaps hz.1 with hc | hc <;> rw [hc]
    · exact h
    · exact ⟨h.lookup, hz.2⟩
  | arrival y =>
    rcases turn_handles blake2b s y with ⟨peer, hp, hb, ht⟩ | ⟨ht, -⟩
    · rw [ht]
      have hP : (∃ e, AdminIssues s ⟨y.env, peer, y.src⟩ P e) ∨
          ExecutesFrom blake2b s ⟨y.env, peer, y.src⟩ P → False := fun hx =>
        hz.1 ⟨peer, hp, hb, hx⟩
      rcases adminChallenges_effect (handle_effect blake2b s ⟨y.env, peer, y.src⟩) with
        hc | ⟨e', hi, hc⟩ | ⟨hx, t, hc⟩
      · exact ⟨hc ▸ h.lookup, hc ▸ h.timeout⟩
      · have hne : P ≠ ip peer := by
          rintro rfl
          exact hP (Or.inl ⟨e', hi⟩)
        refine ⟨?_, ?_⟩ <;> rw [hc]
        · refine (TimedHashMap.sweep_insert _ _ _ _ _).eq_some_of_alive ?_ (h.isValid (hz.2 2))
          rw [Function.update_of_ne hne]
          exact h.lookup
        · rw [TimedHashMap.timeout_insert]
          exact h.timeout
      · have hne : P ≠ ip peer := by
          rintro rfl
          exact hP (Or.inr hx)
        refine ⟨?_, ?_⟩ <;> rw [hc]
        · rw [TimedHashMap.lookup_remove, Function.update_of_ne hne]
          exact h.lookup
        · exact h.timeout
    · rwa [ht]

/-- The pair of a request that is answered. -/
theorem HoldsPair.issued {D : ℕ} {x : Packet Addr} (h : AdminIssues s x P e)
    (hD : D ≤ s.adminChallenges.timeout.toNat)
    (hnow : (x.env.now 2).durationSince (x.env.now 1) < D * 1000) :
    HoldsPair D P e (s.handle blake2b x) := by
  have hvalid : e.isValid (x.env.now 2) s.adminChallenges.timeout = true := by
    rw [Timed.isValid_iff, h.entry]
    exact hnow.trans_le (Nat.mul_le_mul_right 1000 hD)
  refine ⟨?_, ?_⟩ <;> rw [adminChallenges_of_issues h]
  · refine (TimedHashMap.sweep_insert _ _ _ _ _).eq_some_of_alive ?_ hvalid
    rw [Function.update_self, h.entry]
  · rw [TimedHashMap.timeout_insert]
    exact hD

/-! ## Guesses -/

/-- The hash of a packet is compared, and is the one of no admin. -/
def isGuess (blake2b : HashConfig → Bytes → Bytes) (s : MasterServer Addr Ip) (x : Packet Addr) :
    Bool :=
  AdminCommand.header.isPrefixOf x.src && !AdminChallenge.header.isPrefixOf x.src &&
  (s.adminLimit.view (x.env.now 0) (ip x.peer)).isNone &&
  (AdminCommand.decodeWithHashLen s.cfg.hash.len x.src).toOption.any fun msg =>
    (s.adminChallenges.view (x.env.now 1) (ip x.peer)).any fun e =>
      e.value.1 == msg.masterChallenge && (findAdmin blake2b s.cfg e.value.2 msg.hash).isNone

theorem asMillis_mono {t t' : RelativeTime} (h : t ≤ t') : t.asMillis ≤ t'.asMillis :=
  Nat.mul_le_mul_right _ h

theorem findAdmin_isNone {cfg : MasterConfig} {c : UInt32} {hash : Bytes} :
    (findAdmin blake2b cfg c hash).isNone = true ↔
      ∀ i ∈ cfg.adminList, hash ≠ blake2b cfg.hash (i.password ++ u32Le c) := by
  rw [← Option.not_isSome, Bool.not_eq_true', ← Bool.not_eq_true, findAdmin_isSome]
  simp

omit [DecidableEq Addr] in
theorem isGuess_iff {x : Packet Addr} :
    isGuess blake2b s x = true ↔ ∃ e msg, Refused blake2b s x e msg := by
  unfold isGuess
  simp only [Bool.and_eq_true, Bool.not_eq_true', Option.isNone_iff_eq_none]
  constructor
  · rintro ⟨⟨⟨hheader, hnot⟩, hlimit⟩, hany⟩
    cases hdecoded : AdminCommand.decodeWithHashLen s.cfg.hash.len x.src with
    | error err =>
      rw [hdecoded] at hany
      cases hany
    | ok msg =>
      rw [hdecoded] at hany
      replace hany : (s.adminChallenges.view (x.env.now 1) (ip x.peer)).any _ = true := hany
      cases hentry : s.adminChallenges.view (x.env.now 1) (ip x.peer) with
      | none =>
        rw [hentry] at hany
        cases hany
      | some e =>
        rw [hentry, Option.any_some, Bool.and_eq_true, beq_iff_eq] at hany
        exact ⟨e, msg, ⟨hheader, Bool.eq_false_iff.1 hnot, hlimit, hdecoded, hentry, hany.1⟩,
          findAdmin_isNone.1 hany.2⟩
  · rintro ⟨e, msg, h⟩
    refine ⟨⟨⟨h.header, Bool.eq_false_iff.2 h.notRequest⟩, h.notLimited⟩, ?_⟩
    rw [h.decoded]
    show (s.adminChallenges.view (x.env.now 1) (ip x.peer)).any _ = true
    rw [h.entry, Option.any_some, Bool.and_eq_true, beq_iff_eq]
    exact ⟨h.challenge, findAdmin_isNone.2 h.noAdmin⟩

/-- When an event makes a wrong guess from an IP address. -/
def guessAt (blake2b : HashConfig → Bytes → Bytes) (P : Ip) (s : MasterServer Addr Ip) :
    Event Addr → Option ℕ
  | .arrival y => (extract y.sender : Option Addr).bind fun peer =>
    if ip peer ∉ s.blocklist ∧ ip peer = P ∧ isGuess blake2b s ⟨y.env, peer, y.src⟩ then
      some (y.env.now 2).asMillis
    else none
  | .reload _ _ => none

/-- The times of the wrong guesses from an IP address. -/
def guesses (blake2b : HashConfig → Bytes → Bytes) (P : Ip) :
    MasterServer Addr Ip → List (Event Addr) → List ℕ
  | _, [] => []
  | s, z :: zs => (guessAt blake2b P s z).toList ++ guesses blake2b P (s.turn blake2b z) zs

/-- The readings of the clock never go back. -/
def Ordered (zs : List (Event Addr)) : Prop :=
  (∀ y, .arrival y ∈ zs → Monotone y.env.now) ∧
    zs.Pairwise fun z z' => ∀ y y', z = .arrival y → z' = .arrival y' →
      ∀ i j, y.env.now i ≤ y'.env.now j

/-- Every configuration of a run locks out for `T` seconds at least. -/
structure LocksOut (T : ℕ) (s : MasterServer Addr Ip) (zs : List (Event Addr)) : Prop where
  start : T ≤ s.adminLimit.timeout.toNat
  reload : ∀ host cfg, .reload host cfg ∈ zs → T ≤ cfg.server.timeout.admin.toNat

/-- A wrong guess is made at the third reading of the clock, and locks its IP address out. -/
theorem guessAt_eq_some {z : Event Addr} {t : ℕ} (h : guessAt blake2b P s z = some t) :
    ∃ y peer e msg, z = .arrival y ∧ ip peer = P ∧ t = (y.env.now 2).asMillis ∧
      Refused blake2b s ⟨y.env, peer, y.src⟩ e msg ∧
      s.turn blake2b z = s.lockedOut ⟨y.env, peer, y.src⟩ := by
  cases z with
  | reload host cfg => cases h
  | arrival y =>
    obtain ⟨peer, hpeer, h⟩ := Option.bind_eq_some_iff.1 h
    split_ifs at h with hguess
    obtain ⟨hb, hP, hguess⟩ := hguess
    obtain ⟨e, msg, hr⟩ := isGuess_iff.1 hguess
    refine ⟨y, peer, e, msg, rfl, hP, (Option.some.inj h).symm, hr, ?_⟩
    rw [turn_arrival (extract_eq_some.1 hpeer).symm hb]
    exact handle_of_refused hr

section Guesses

variable {T : ℕ} {z : Event Addr} {zs : List (Event Addr)} {l : Timed Unit}

omit [DecidableEq Addr] in
theorem Ordered.tail (h : Ordered (z :: zs)) : Ordered zs :=
  ⟨fun y hy => h.1 y (List.mem_cons_of_mem z hy), (List.pairwise_cons.1 h.2).2⟩

/-- A time is no later than the readings of the events to come. -/
def Precedes (t : RelativeTime) (zs : List (Event Addr)) : Prop :=
  ∀ y, .arrival y ∈ zs → ∀ i, t ≤ y.env.now i

omit [DecidableEq Addr] in
theorem Ordered.precedes {y : Arrival Addr} (h : Ordered (.arrival y :: zs)) (i : ℕ) :
    Precedes (y.env.now i) zs := fun y' hy' j =>
  (List.pairwise_cons.1 h.2).1 (.arrival y') hy' y y' rfl rfl i j

omit [DecidableEq Addr] in
theorem Precedes.tail {t : RelativeTime} (h : Precedes t (z :: zs)) : Precedes t zs :=
  fun y hy => h y (List.mem_cons_of_mem z hy)

/-- The lockout of an IP address is over at a time. -/
def Over (T : ℕ) (l : Timed Unit) (t : RelativeTime) : Prop :=
  T * 1000 ≤ t.durationSince l.time

theorem over_of_isValid {t : RelativeTime} {secs : UInt32} (hT : T ≤ secs.toNat)
    (h : l.isValid t secs = false) : Over T l t := by
  rw [← Bool.not_eq_true, Timed.isValid_iff] at h
  unfold Over
  omega

theorem Over.le {t : RelativeTime} (h : Over T l t) (ht : l.time ≤ t) :
    l.time.asMillis + T * 1000 ≤ t.asMillis := by
  unfold Over RelativeTime.durationSince at h
  have hle := asMillis_mono ht
  omega

/-- The timeout of the lockouts stays, unless a reload changes it. -/
theorem LocksOut.tail (h : LocksOut T s (z :: zs)) : LocksOut T (s.turn blake2b z) zs := by
  refine ⟨?_, fun host cfg hmem => h.reload host cfg (List.mem_cons_of_mem z hmem)⟩
  cases z with
  | reload host cfg =>
    show T ≤ (s.updateConfig host cfg).1.adminLimit.timeout.toNat
    rcases updateConfig_cases host s cfg with ⟨sock, hc⟩ | ⟨addr, hc | ⟨sock, hc⟩⟩ <;> rw [hc]
    · exact h.start
    · exact h.reload host cfg List.mem_cons_self
    · exact h.reload host cfg List.mem_cons_self
  | arrival y =>
    rcases turn_handles blake2b s y with ⟨peer, -, -, ht⟩ | ⟨ht, -⟩ <;> rw [ht]
    · rcases adminLimit_effect (handle_effect blake2b s ⟨y.env, peer, y.src⟩) with hc | ⟨-, hc⟩ <;>
        rw [hc]
      · exact h.start
      · rw [TimedHashMap.timeout_insert]
        exact h.start
    · exact h.start

variable (blake2b) in
/-- A lockout stays, or it was over during the event. -/
theorem lockout_turn (hT : LocksOut T s (z :: zs)) (h : s.adminLimit.lookup P = some l) :
    (s.turn blake2b z).adminLimit.lookup P = some l ∨
      ∃ y i, z = .arrival y ∧ Over T l (y.env.now i) := by
  cases z with
  | reload host cfg =>
    refine Or.inl ?_
    show (s.updateConfig host cfg).1.adminLimit.lookup P = some l
    rcases updateConfig_cases host s cfg with ⟨sock, hc⟩ | ⟨addr, hc | ⟨sock, hc⟩⟩ <;> rw [hc] <;>
      exact h
  | arrival y =>
    by_cases halive : ∀ i, l.isValid (y.env.now i) s.adminLimit.timeout = true
    · refine Or.inl ?_
      rcases turn_handles blake2b s y with ⟨peer, -, -, ht⟩ | ⟨ht, -⟩ <;> rw [ht]
      · exact limit_kept (handle_effect blake2b s ⟨y.env, peer, y.src⟩) h halive
      · exact h
    · rw [not_forall] at halive
      obtain ⟨i, hi⟩ := halive
      exact Or.inr ⟨y, i, rfl, over_of_isValid hT.start (Bool.eq_false_iff.2 hi)⟩

theorem mem_guesses {t : ℕ} (h : t ∈ guesses blake2b P s zs) :
    ∃ y, .arrival y ∈ zs ∧ t = (y.env.now 2).asMillis := by
  induction zs generalizing s with
  | nil => cases h
  | cons z zs ih =>
    rcases List.mem_append.1 h with h | h
    · obtain ⟨y, -, -, -, rfl, -, ht, -⟩ := guessAt_eq_some (Option.mem_toList.1 h)
      exact ⟨y, List.mem_cons_self, ht⟩
    · obtain ⟨y, hy, ht⟩ := ih h
      exact ⟨y, List.mem_cons_of_mem z hy, ht⟩

theorem le_of_mem_guesses {t : ℕ} {t₀ : RelativeTime} (h₀ : Precedes t₀ zs)
    (h : t ∈ guesses blake2b P s zs) : t₀.asMillis ≤ t := by
  obtain ⟨y, hy, rfl⟩ := mem_guesses h
  exact asMillis_mono (h₀ y hy 2)

/-- Behind a lockout the next guess comes when it is over. -/
theorem guesses_of_lockout (hT : LocksOut T s zs) (hclock : Ordered zs)
    (h : s.adminLimit.lookup P = some l) (hl : Precedes l.time zs) :
    ∀ t ∈ guesses blake2b P s zs, l.time.asMillis + T * 1000 ≤ t := by
  induction zs generalizing s with
  | nil =>
    intro t ht
    cases ht
  | cons z zs ih =>
    intro t ht
    rcases List.mem_append.1 ht with ht | ht
    · obtain ⟨y, peer, e, msg, rfl, rfl, rfl, hr, -⟩ := guessAt_eq_some (Option.mem_toList.1 ht)
      have hexpired : l.isValid (y.env.now 0) s.adminLimit.timeout = false := by
        by_contra hv
        have hview := hr.notLimited
        rw [TimedHashMap.view_eq_some.2 ⟨h, Bool.not_eq_false _ ▸ hv⟩] at hview
        cases hview
      have hover := (over_of_isValid hT.start hexpired).le (hl y List.mem_cons_self 0)
      exact hover.trans (asMillis_mono (hclock.1 y List.mem_cons_self (Nat.zero_le 2)))
    · rcases lockout_turn blake2b hT h with hkept | ⟨y, i, rfl, hover⟩
      · exact ih hT.tail hclock.tail hkept hl.tail t ht
      · exact (hover.le (hl y List.mem_cons_self i)).trans
          (le_of_mem_guesses (hclock.precedes i) ht)

theorem spaced_guesses (hT : LocksOut T s zs) (hclock : Ordered zs) :
    Spaced (T * 1000) (guesses blake2b P s zs) := by
  induction zs generalizing s with
  | nil => exact Spaced.nil
  | cons z zs ih =>
    have hrest := ih (s := s.turn blake2b z) hT.tail hclock.tail
    rw [guesses]
    cases hg : guessAt blake2b P s z with
    | none => exact hrest
    | some t =>
      refine hrest.cons fun t' ht' => ?_
      obtain ⟨y, peer, e, msg, rfl, rfl, rfl, hr, hturn⟩ := guessAt_eq_some hg
      obtain ⟨l, hl⟩ : ∃ l : Timed Unit, l = ⟨y.env.now 2, ()⟩ := ⟨_, rfl⟩
      have htime : l.time = y.env.now 2 := congrArg Timed.time hl
      rw [← htime]
      -- the lockout is there, or over before the next event
      by_cases halive : l.isValid (y.env.now 3) s.adminLimit.timeout = true
      · refine guesses_of_lockout hT.tail hclock.tail ?_ (htime ▸ hclock.precedes 2) t' ht'
        rw [hturn, hl]
        rw [hl] at halive
        exact lookup_lockedOut s ⟨y.env, peer, y.src⟩ halive
      · have hover := over_of_isValid hT.start (Bool.eq_false_iff.2 halive)
        have hmono : y.env.now 2 ≤ y.env.now 3 := hclock.1 y List.mem_cons_self (Nat.le_succ 2)
        rw [← htime] at hmono
        have hlater : (y.env.now 3).asMillis ≤ t' := le_of_mem_guesses (hclock.precedes 3) ht'
        exact (hover.le hmono).trans hlater

/-- Wrong guesses of a hash are rare. While every configuration locks out for `T` seconds, an IP
address makes no more than one of them in each `T` seconds, and one more, whatever challenges it
asks for and however often the configuration is reloaded. -/
theorem guesses_bounded (blake2b : HashConfig → Bytes → Bytes) (cfg : MasterConfig)
    (sock updateAddr : SocketAddr) (P : Ip) (xs : List (Event Addr)) (T : ℕ)
    (hT : LocksOut T (init cfg sock updateAddr : MasterServer Addr Ip) xs)
    (hclock : Ordered xs) (a b : ℕ) :
    (guesses blake2b P (init cfg sock updateAddr) xs).countP (fun t => a ≤ t ∧ t ≤ b) *
      (T * 1000) ≤ b - a + T * 1000 :=
  (spaced_guesses hT hclock).countP_le a b

/-- An admin asks for a pair, and guesses twice. -/
theorem guesses_bounded_twice :
    let host : SocketAddrV4 := ⟨⟨⟨[10, 0, 0, 1], rfl⟩⟩, 27010⟩
    let cfg : MasterConfig := { hash := { len := 1 }, adminList := [⟨ascii "admin", ascii "pass"⟩] }
    let request : Event SocketAddrV4 :=
      .arrival ⟨.steady ⟨0⟩ fun _ => 7, .v4 host, AdminChallenge.header⟩
    let guess : Event SocketAddrV4 :=
      .arrival ⟨.steady ⟨0⟩ fun _ => 0, .v4 host, ascii "admin" ++ [7, 0, 0, 0, 1] ++ ascii "ban"⟩
    let times := guesses (fun _ _ => [0]) host.ip
      (init cfg (.v4 host) (.v4 host) : MasterServer SocketAddrV4 Ipv4Addr) [request, guess, guess]
    times = [0] ∧ times.countP (fun t => 0 ≤ t ∧ t ≤ 1000) * 10000 ≤ 11000 := by
  intro host cfg request guess times
  have hnow : ∀ y, .arrival y ∈ [request, guess, guess] → ∀ i, y.env.now i = ⟨0⟩ := by
    simp only [request, guess, List.mem_cons, Event.arrival.injEq, List.not_mem_nil, or_false]
    rintro y (rfl | rfl | rfl) <;> exact fun _ => rfl
  refine ⟨by decide +kernel, guesses_bounded _ cfg _ _ _ _ 10 ⟨by decide, ?_⟩ ⟨?_, ?_⟩ 0 1000⟩
  · intro host' cfg' hmem
    simp [request, guess] at hmem
  · intro y hy i j _
    rw [hnow y hy i, hnow y hy j]
  · refine List.pairwise_of_forall_mem_list fun z hz z' hz' y y' hy hy' i j => ?_
    rw [hnow y (hy ▸ hz), hnow y' (hy' ▸ hz')]

end Guesses

end Xash3d.MasterServer
