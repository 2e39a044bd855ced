import Xash3d.Lib.Window
import Xash3d.Master.Run

/-!
# The rate limit of game requests

The counters of `client_rate_limit` implement the windows of `Lib.Window`, one for each IP
address, 125 units of the clock long: `tracks_run` says that the counter an IP address sees is that
of its window, a function of the times of its own requests. `rate_limit` follows.
-/

namespace Xash3d.MasterServer

open Lib AddrExt

/-! ## Which packets are refused -/

section Refusals

variable {Addr Ip : Type} {α β : Type}

def isGameRateLimit : Except Error Unit → Bool
  | .error (.gameRateLimit _) => true
  | _ => false

/-- The action does not fail with a rate limit. -/
def Unlimited (m : Send Addr α) : Prop :=
  ∀ sent e sent', m sent = .error e sent' → isGameRateLimit (.error e) = false

theorem Unlimited.bind {m : Send Addr α} {f : α → Send Addr β} (hm : Unlimited m)
    (hf : ∀ a, Unlimited (f a)) : Unlimited (m >>= f) := by
  intro sent e sent' h
  have hb : (m >>= f) sent = EStateM.bind m f sent := rfl
  rw [hb, EStateM.bind] at h
  cases hr : m sent with
  | ok a sent₁ =>
    rw [hr] at h
    exact hf a _ _ _ h
  | error e₁ sent₁ =>
    rw [hr] at h
    cases h
    exact hm _ _ _ hr

theorem unlimited_sendTo (env : Env Addr) (packet : Bytes) (dest : Addr) :
    Unlimited (sendTo env packet dest) := by
  intro sent e sent' h
  unfold sendTo at h
  split at h
  · cases h
  · cases h
    rfl

theorem unlimited_encoded (r : Except ProtocolError α) : Unlimited (encoded r : Send Addr α) := by
  intro sent e sent' h
  unfold encoded at h
  cases r with
  | ok p => cases h
  | error e₁ =>
    cases h
    rfl

theorem unlimited_forM (f : Addr → Send Addr Unit) (hf : ∀ a, Unlimited (f a)) (l : List Addr) :
    Unlimited (l.forM f) := by
  induction l with
  | nil =>
    intro sent e sent' h
    cases h
  | cons a l ih => exact (hf a).bind fun _ => ih

theorem isGameRateLimit_reply {m : Send Addr Unit} (hm : Unlimited m) (s : MasterServer Addr Ip) :
    isGameRateLimit (Outcome.reply s m).result = false := by
  unfold Outcome.reply
  cases h : m [] with
  | ok _ sent => rfl
  | error e sent => exact hm _ _ _ h

variable [AddrExt Addr Ip]

theorem unlimited_sendServerList {S : Type} [ServerAddress S] (env : Env Addr) (dest : Addr)
    (key : Option UInt32) (servers : List S) :
    Unlimited (sendServerList env dest key servers) := by
  induction h : servers.length using Nat.strong_induction_on generalizing servers with
  | _ n ih =>
    intro sent e sent' he
    rw [sendServerList] at he
    split at he
    · cases he
      rfl
    · rename_i packet count henc
      split at he
      · rename_i e₁ sent₁ hs
        cases he
        exact unlimited_sendTo env packet dest _ _ _ hs
      · split at he
        · cases he
        · rename_i hc
          refine ih _ ?_ (servers.drop count) rfl _ _ _ he
          rw [← h]
          exact drop_count_lt henc hc

theorem unlimited_sendFakeServer (env : Env Addr) (peer : Addr) (key : Option UInt32)
    (updateAddr : SocketAddr) : Unlimited (sendFakeServer env peer key updateAddr) := by
  cases updateAddr <;> exact unlimited_sendServerList env peer key _

theorem unlimited_sendClientToNatServers (env : Env Addr) (peer : Addr) (servers : List Addr) :
    Unlimited (sendClientToNatServers env peer servers) :=
  (unlimited_encoded _).bind fun packet => unlimited_forM _ (unlimited_sendTo env packet) servers

variable [DecidableEq Addr]

theorem isGameRateLimit_query (env : Env Addr) (s : MasterServer Addr Ip) (peer : Addr)
    (query : QueryServers Filter) :
    isGameRateLimit (s.handleGameQueryServers env peer query).result = false := by
  unfold handleGameQueryServers
  dsimp only
  by_cases hv : (!s.isQueryServersValid query) = true
  · rw [if_pos hv]
    exact isGameRateLimit_reply (unlimited_sendFakeServer _ _ _ _) _
  · rw [if_neg hv]
    split
    · rfl
    · refine isGameRateLimit_reply ((unlimited_sendServerList _ _ _ _).bind ?_) _
      intro _
      split_ifs
      · exact unlimited_sendClientToNatServers _ _ _
      · intro sent e sent' h
        cases h

variable [DecidableEq Ip] {blake2b : HashConfig → Bytes → Bytes} {s : MasterServer Addr Ip}

/-- The packet is refused by the rate limit. -/
def isRefused (blake2b : HashConfig → Bytes → Bytes) (s : MasterServer Addr Ip) (x : Packet Addr) :
    Bool :=
  isGameRateLimit (s.handlePacket blake2b x.env x.peer x.src).result

/-- A game request is refused when the rate limit does not allow it, and for no other reason. -/
theorem isRefused_eq {x : Packet Addr} (h : isGameRequest x.src = true) :
    isRefused blake2b s x = isGameRateLimit (s.allowGameRequest x.env x.peer).1 := by
  unfold isRefused
  rcases Bool.or_eq_true_iff.1 h with hp | hp
  · rw [handlePacket_queryServers hp]
    cases ha : (s.allowGameRequest x.env x.peer).1 with
    | error e => rfl
    | ok _ =>
      cases QueryServers.decode x.src with
      | error e => rfl
      | ok q => exact isGameRateLimit_query _ _ _ _
  · rw [handlePacket_getServerInfo hp]
    cases ha : (s.allowGameRequest x.env x.peer).1 with
    | error e => rfl
    | ok _ =>
      cases GetServerInfo.decode x.src with
      | error e => rfl
      | ok q =>
        exact isGameRateLimit_reply ((unlimited_encoded _).bind fun _ => unlimited_sendTo _ _ _) _

end Refusals

/-! ## Counters and windows -/

variable {Addr Ip : Type} [AddrExt Addr Ip] [DecidableEq Addr] [DecidableEq Ip]
  {blake2b : HashConfig → Bytes → Bytes} {cfg : MasterConfig} {s : MasterServer Addr Ip}
  {x : Packet Addr} {P : Ip} {t : RelativeTime}

/-- The length of a window: a second, in units of the clock. -/
def windowLen : ℕ := 125

/-- The time of a packet, in units of the clock. -/
def time (x : Packet Addr) : ℕ := (x.env.now 0).units.toNat

/-- A game request from an IP address, through any port. -/
def requests (P : Ip) (x : Packet Addr) : Bool := isGameRequest x.src && decide (ip x.peer = P)

/-- The times of the game requests of an IP address. -/
def requestTimes (P : Ip) (xs : List (Packet Addr)) : List ℕ := (xs.filter (requests P)).map time

/-- The times of those that are not refused. -/
def acceptedTimes (blake2b : HashConfig → Bytes → Bytes) (P : Ip) :
    MasterServer Addr Ip → List (Packet Addr) → List ℕ
  | _, [] => []
  | s, x :: xs =>
    if requests P x && !isRefused blake2b s x then
      time x :: acceptedTimes blake2b P (s.handle blake2b x) xs
    else acceptedTimes blake2b P (s.handle blake2b x) xs

omit [DecidableEq Addr] in
theorem requestTimes_append (P : Ip) (xs ys : List (Packet Addr)) :
    requestTimes P (xs ++ ys) = requestTimes P xs ++ requestTimes P ys := by
  simp [requestTimes]

omit [DecidableEq Addr] in
theorem requestTimes_cons_of_requests {xs : List (Packet Addr)} (h : requests P x = true) :
    requestTimes P (x :: xs) = time x :: requestTimes P xs := by simp [requestTimes, h]

omit [DecidableEq Addr] in
theorem requestTimes_cons_of_not {xs : List (Packet Addr)} (h : ¬ requests P x = true) :
    requestTimes P (x :: xs) = requestTimes P xs := by simp [requestTimes, h]

/-- The counter of a window. -/
def counter (w : Window) : Timed UInt32 := ⟨⟨.ofNat w.start⟩, .ofNat (min w.count 0xffffffff)⟩

theorem counter_arrive (w : Option Window) (t : RelativeTime) :
    counter (Window.arrive windowLen w t.units.toNat) =
      ⟨(((Window.openAt windowLen w t.units.toNat).map counter).getD ⟨t, 0⟩).time,
        saturatingAdd (((Window.openAt windowLen w t.units.toNat).map counter).getD ⟨t, 0⟩).value 1⟩ := by
  cases h : Window.openAt windowLen w t.units.toNat with
  | none =>
    rw [Window.arrive_of_closed h]
    simp [counter, saturatingAdd]
  | some w' =>
    rw [Window.arrive_of_open h]
    simp only [counter, saturatingAdd, Option.map_some, Option.getD_some]
    congr 2
    have h1 : (1 : UInt32).toNat = 1 := rfl
    have hsize : UInt32.size = 2 ^ 32 := rfl
    rw [h1, UInt32.toNat_ofNat_of_lt' (by omega)]
    omega

/-- A counter is valid as long as its window is open. -/
theorem isValid_counter {w : Window} (hw : w.start < 2 ^ 32) (t : RelativeTime) :
    (counter w).isValid t 1 = Window.isOpen windowLen w t.units.toNat := by
  rw [Bool.eq_iff_iff, Timed.isValid_iff, RelativeTime.durationSince_eq]
  have hs : (counter w).time.units.toNat = w.start := UInt32.toNat_ofNat_of_lt' hw
  rw [hs]
  unfold Window.isOpen windowLen
  have h1 : (1 : UInt32).toNat = 1 := rfl
  rw [decide_eq_true_eq, h1]
  omega

/-! ## Runs -/

/-- A packet changes the counters as the rate limit does, or not at all. -/
theorem clientRateLimit_handle (s : MasterServer Addr Ip) (x : Packet Addr) :
    (s.handle blake2b x).clientRateLimit =
      if isGameRequest x.src then (s.allowGameRequest x.env x.peer).2.clientRateLimit
      else s.clientRateLimit := by
  split_ifs with hg
  · obtain ⟨gamedirs, filtered, nat, h⟩ := handle_gameRequest blake2b s hg
    rw [h]
  · have heff := handle_effect blake2b s x
    generalize s.handle blake2b x = s' at heff ⊢
    cases heff with
    | none => rfl
    | challenge msg hd => rfl
    | expired msg hd hr => rfl
    | add msg e hr =>
      unfold registered
      rw [addServer_frame]
    | game gamedirs filtered nat h => exact absurd h hg
    | adminChallenge hd ha => rfl
    | adminCommand e msg hx =>
      unfold executed
      rw [adminCommand_frame]
      rfl
    | adminRefused e msg hx => rfl

/-- The counter an IP address sees after a packet. -/
theorem view_handle (hcfg : Configured cfg s) (hL : 0 < cfg.server.clientRateLimit)
    (hnow : ∀ i, x.env.now i = x.env.now 0) (ht : x.env.now 0 ≤ t) :
    (s.handle blake2b x).clientRateLimit.view t P =
      if requests P x then
        let e := (s.clientRateLimit.view (x.env.now 0) P).getD ⟨x.env.now 0, 0⟩
        (some ⟨e.time, saturatingAdd e.value 1⟩ : Option (Timed UInt32)).filter (Timed.isValid · t 1)
      else s.clientRateLimit.view t P := by
  rw [clientRateLimit_handle]
  by_cases hg : isGameRequest x.src = true
  swap
  · rw [if_neg hg, if_neg (by simp [requests, hg])]
  rw [if_pos hg]
  have hpos : s.cfg.server.clientRateLimit > 0 := by rw [hcfg.cfg_eq]; exact hL
  have hview : (s.allowGameRequest x.env x.peer).2.clientRateLimit.view t =
      Function.update (s.clientRateLimit.view t) (ip x.peer)
        ((some ⟨((s.clientRateLimit.view (x.env.now 0) (ip x.peer)).getD ⟨x.env.now 0, 0⟩).time,
          saturatingAdd ((s.clientRateLimit.view (x.env.now 0) (ip x.peer)).getD
            ⟨x.env.now 0, 0⟩).value 1⟩ : Option (Timed UInt32)).filter (Timed.isValid · t 1)) := by
    have hmap : (s.allowGameRequest x.env x.peer).2.clientRateLimit =
        (s.clientRateLimit.orInsert (ip x.peer) (x.env.now 0) (x.env.now 1) 0).2.entryInsert
          (ip x.peer) ⟨(s.clientRateLimit.orInsert (ip x.peer) (x.env.now 0) (x.env.now 1) 0).1.time,
            saturatingAdd (s.clientRateLimit.orInsert (ip x.peer) (x.env.now 0)
              (x.env.now 1) 0).1.value 1⟩ := by
      unfold allowGameRequest
      rw [if_pos hpos]
      dsimp only
      split_ifs <;> rfl
    rw [hmap, TimedHashMap.view_entryInsert, TimedHashMap.view_orInsert ht,
      TimedHashMap.orInsert_fst, TimedHashMap.timeout_orInsert, hcfg.clientRateLimit, hnow 1,
      Function.update_idem]
    rfl
  rw [hview]
  by_cases hP : ip x.peer = P
  · rw [if_pos (by simp [requests, hg, hP]), hP, Function.update_self]
  · rw [if_neg (by simp [requests, hP]), Function.update_of_ne (Ne.symm hP)]

/-- A game request is refused when its counter exceeds the limit. -/
theorem isRefused_iff (hcfg : Configured cfg s) (hL : 0 < cfg.server.clientRateLimit)
    (hnow : ∀ i, x.env.now i = x.env.now 0) (hreq : requests P x = true) :
    isRefused blake2b s x = true ↔ cfg.server.clientRateLimit <
      saturatingAdd ((s.clientRateLimit.view (x.env.now 0) P).getD ⟨x.env.now 0, 0⟩).value 1 := by
  obtain ⟨hg, hP⟩ := Bool.and_eq_true_iff.1 hreq
  have hP : ip x.peer = P := of_decide_eq_true hP
  have hpos : s.cfg.server.clientRateLimit > 0 := by rw [hcfg.cfg_eq]; exact hL
  rw [isRefused_eq hg]
  unfold allowGameRequest
  rw [if_pos hpos]
  dsimp only
  rw [TimedHashMap.orInsert_fst, hnow 1, hP, hcfg.cfg_eq]
  split_ifs with h
  · simpa [isGameRateLimit] using h
  · simpa [isGameRateLimit] using h

/-- The counter an IP address sees is that of the window of its own requests. -/
def Tracks (P : Ip) (xs : List (Packet Addr)) (s : MasterServer Addr Ip) : Prop :=
  (∀ w ∈ Window.after windowLen none (requestTimes P xs), w.start < 2 ^ 32) ∧
  ∀ t, Until xs t → s.clientRateLimit.view t P =
    (Window.openAt windowLen (Window.after windowLen none (requestTimes P xs)) t.units.toNat).map
      counter

theorem Tracks.step {xs : List (Packet Addr)} (hcfg : Configured cfg s)
    (hL : 0 < cfg.server.clientRateLimit) (hnow : ∀ i, x.env.now i = x.env.now 0)
    (hclock : NonDecreasing (xs ++ [x])) (h : Tracks P xs s) :
    Tracks P (xs ++ [x]) (s.handle blake2b x) := by
  obtain ⟨hstart, hview⟩ := h
  have hbefore := hclock.init.2.2 0
  unfold Tracks
  rw [requestTimes_append, Window.after_append]
  set w := Window.after windowLen none (requestTimes P xs) with hw
  by_cases hreq : requests P x = true
  swap
  · have hnil : requestTimes P [x] = [] := by simp [requestTimes, hreq]
    rw [hnil, Window.after_nil]
    refine ⟨hstart, ?_⟩
    intro t ht
    rw [view_handle hcfg hL hnow (ht x (by simp) 0), if_neg hreq]
    exact hview t fun y hy => ht y (by simp [hy])
  · have hone : requestTimes P [x] = [time x] := by simp [requestTimes, hreq]
    have hafter : Window.after windowLen w [time x] = some (Window.arrive windowLen w (time x)) := rfl
    rw [hone, hafter]
    have hlt : (Window.arrive windowLen w (time x)).start < 2 ^ 32 := by
      unfold Window.arrive
      split
      · rename_i w' hopen
        exact hstart w' (Option.filter_eq_some_iff.1 hopen).1
      · exact (x.env.now 0).units.toNat_lt
    refine ⟨by simpa using hlt, ?_⟩
    intro t ht
    have hcounter := counter_arrive w (x.env.now 0)
    rw [view_handle hcfg hL hnow (ht x (by simp) 0), if_pos hreq, hview _ hbefore]
    dsimp only
    rw [← hcounter]
    show (some (counter (Window.arrive windowLen w (time x)))).filter _ = _
    unfold Window.openAt
    simp only [Option.filter_some, isValid_counter hlt]
    split_ifs <;> rfl

theorem tracks_run (hL : 0 < cfg.server.clientRateLimit) (sock updateAddr : SocketAddr) (P : Ip)
    (xs : List (Packet Addr)) (hclock : NonDecreasing xs)
    (hnow : ∀ x ∈ xs, ∀ i, x.env.now i = x.env.now 0) :
    Tracks P xs (exec (handle blake2b) (init cfg sock updateAddr) xs) := by
  refine exec_induction
    (fun xs => NonDecreasing xs ∧ ∀ x ∈ xs, ∀ i, x.env.now i = x.env.now 0) (Tracks P)
    (fun xs x h => ⟨h.1.init.1, fun y hy => h.2 y (by simp [hy])⟩) ?_ ?_ xs ⟨hclock, hnow⟩
  · refine ⟨?_, fun _ _ => rfl⟩
    intro w hw
    cases hw
  · intro xs x hok h
    exact h.step ((configured_init cfg sock updateAddr).run xs) hL (hok.2 x (by simp)) hok.1

/-- A request is refused when its window has seen enough requests. -/
theorem Tracks.isRefused {xs : List (Packet Addr)} (h : Tracks P xs s) (hcfg : Configured cfg s)
    (hL : 0 < cfg.server.clientRateLimit) (hL' : cfg.server.clientRateLimit.toNat < 2 ^ 32 - 1)
    (hnow : ∀ i, x.env.now i = x.env.now 0) (hclock : NonDecreasing (xs ++ [x]))
    (hreq : requests P x = true) :
    MasterServer.isRefused blake2b s x = true ↔ cfg.server.clientRateLimit.toNat ≤
      Window.seen windowLen (Window.after windowLen none (requestTimes P xs)) (time x) := by
  rw [isRefused_iff hcfg hL hnow hreq, h.2 _ (hclock.init.2.2 0)]
  have hcounter := congrArg Timed.value
    (counter_arrive (Window.after windowLen none (requestTimes P xs)) (x.env.now 0))
  dsimp only at hcounter
  rw [← hcounter]
  have hcount := Window.count_arrive windowLen
    (Window.after windowLen none (requestTimes P xs)) (x.env.now 0).units.toNat
  have hsize : UInt32.size = 2 ^ 32 := rfl
  unfold counter time
  rw [UInt32.lt_iff_toNat_lt, UInt32.toNat_ofNat_of_lt' (by omega), hcount]
  omega

/-- The requests that are not refused are those a limiter of windows serves. -/
theorem acceptedTimes_eq (hL : 0 < cfg.server.clientRateLimit)
    (hL' : cfg.server.clientRateLimit.toNat < 2 ^ 32 - 1) (sock updateAddr : SocketAddr) (P : Ip)
    (xs : List (Packet Addr)) : ∀ ys : List (Packet Addr), NonDecreasing (ys ++ xs) →
    (∀ x ∈ ys ++ xs, ∀ i, x.env.now i = x.env.now 0) →
    acceptedTimes blake2b P (exec (handle blake2b) (init cfg sock updateAddr) ys) xs =
      (Window.served windowLen cfg.server.clientRateLimit.toNat
        (Window.after windowLen none (requestTimes P ys)) (requestTimes P xs)).map Prod.snd := by
  induction xs with
  | nil => exact fun _ _ _ => rfl
  | cons x xs ih =>
    intro ys hclock hnow
    have hsplit : ys ++ x :: xs = (ys ++ [x]) ++ xs := by simp
    have hclock₁ : NonDecreasing (ys ++ [x]) := by
      rw [hsplit] at hclock
      exact ⟨fun y hy => hclock.1 y (List.mem_append_left _ hy), (List.pairwise_append.1 hclock.2).1⟩
    have hnext := ih (ys ++ [x]) (hsplit ▸ hclock) (hsplit ▸ hnow)
    rw [exec_append, exec_singleton, requestTimes_append, Window.after_append] at hnext
    by_cases hreq : requests P x = true
    swap
    · have hnil : requestTimes P [x] = [] := by simp [requestTimes, hreq]
      rw [hnil, Window.after_nil] at hnext
      rw [acceptedTimes, hnext, requestTimes_cons_of_not hreq, if_neg (by simp [hreq])]
    · have htracks : Tracks P ys (exec (handle blake2b) (init cfg sock updateAddr) ys) :=
        tracks_run hL sock updateAddr P ys hclock₁.init.1 fun y hy => hnow y (by simp [hy])
      have hdec : MasterServer.isRefused blake2b
          (exec (handle blake2b) (init cfg sock updateAddr) ys) x = true ↔
          cfg.server.clientRateLimit.toNat ≤ Window.seen windowLen
            (Window.after windowLen none (requestTimes P ys)) (time x) :=
        htracks.isRefused ((configured_init cfg sock updateAddr).run ys) hL hL'
          (hnow x (by simp)) hclock₁ hreq
      have hone : requestTimes P [x] = [time x] := by simp [requestTimes, hreq]
      rw [hone] at hnext
      rw [acceptedTimes, hnext, requestTimes_cons_of_requests hreq, Window.served]
      by_cases hr : MasterServer.isRefused blake2b
          (exec (handle blake2b) (init cfg sock updateAddr) ys) x = true
      · rw [if_neg (by simp [hr]), if_neg (not_lt.2 (hdec.1 hr))]
        rfl
      · rw [if_pos (by simp [hreq, hr]), if_pos (not_le.1 (mt hdec.2 hr))]
        rfl

omit [DecidableEq Addr] in
theorem requestTimes_sorted {xs : List (Packet Addr)} (hclock : NonDecreasing xs) (P : Ip) :
    (requestTimes P xs).Pairwise (· ≤ ·) := by
  unfold requestTimes
  rw [List.pairwise_map]
  refine (hclock.2.imp ?_).filter _
  intro x y h
  exact RelativeTime.le_def.1 (h 0 0)

/-- A game request is refused exactly when its IP address has made enough game requests in its
current window; in no window are more requests served than the limit, and in no second more than
twice the limit. The requests of other addresses do not matter. -/
theorem rate_limit (blake2b : HashConfig → Bytes → Bytes) (cfg : MasterConfig)
    (hL : 0 < cfg.server.clientRateLimit)
    (hL' : cfg.server.clientRateLimit.toNat < 2 ^ 32 - 1) (sock updateAddr : SocketAddr)
    (xs : List (Packet Addr)) (hclock : NonDecreasing xs)
    (hnow : ∀ x ∈ xs, ∀ i, x.env.now i = x.env.now 0) (P : Ip) :
    let run := fun xs => exec (handle blake2b) (init cfg sock updateAddr : MasterServer Addr Ip) xs
    let L := cfg.server.clientRateLimit.toNat
    let served := Window.served windowLen L none (requestTimes P xs)
    (∀ p x q, xs = p ++ x :: q → requests P x = true →
      (MasterServer.isRefused blake2b (run p) x = true ↔
        L ≤ Window.seen windowLen (Window.after windowLen none (requestTimes P p)) (time x))) ∧
    acceptedTimes blake2b P (run []) xs = served.map Prod.snd ∧
    (∀ start, served.countP (fun r => r.1 = start) ≤ L) ∧
    ∀ a, (acceptedTimes blake2b P (run []) xs).countP (fun t => a ≤ t ∧ t ≤ a + windowLen) ≤
      2 * L := by
  intro run L served
  have hlen : 0 < windowLen := by decide
  have hacc : acceptedTimes blake2b P (run []) xs = served.map Prod.snd :=
    acceptedTimes_eq hL hL' sock updateAddr P xs [] hclock hnow
  have hsorted := requestTimes_sorted hclock P
  refine ⟨?_, hacc, Window.countP_window_le hlen hsorted, ?_⟩
  · rintro p x q rfl hreq
    have hsplit : p ++ x :: q = (p ++ [x]) ++ q := by simp
    have hclock₁ : NonDecreasing (p ++ [x]) := by
      rw [hsplit] at hclock
      exact ⟨fun y hy => hclock.1 y (List.mem_append_left _ hy), (List.pairwise_append.1 hclock.2).1⟩
    have htracks : Tracks P p (run p) :=
      tracks_run hL sock updateAddr P p hclock₁.init.1 fun y hy => hnow y (by simp [hy])
    exact htracks.isRefused ((configured_init cfg sock updateAddr).run p) hL hL'
      (hnow x (by simp)) hclock₁ hreq
  · intro a
    rw [hacc, List.countP_map]
    exact Window.countP_interval_le hlen hsorted a

/-- Requests at the start, within the second and after it: the second one is refused. -/
theorem rate_limit_burst :
    let peer : SocketAddrV4 := ⟨⟨⟨[10, 0, 0, 1], rfl⟩⟩, 27015⟩
    let cfg : MasterConfig := { server := { clientRateLimit := 1 } }
    let x (t : UInt32) : Packet SocketAddrV4 :=
      ⟨.steady ⟨t⟩ fun _ => 7, peer, GetServerInfo.header⟩
    acceptedTimes (fun _ _ => []) peer.ip (init cfg (.v4 peer) (.v4 peer)) [x 0, x 124, x 125] =
      [0, 125] := by
  intro peer cfg x
  have hserved := (rate_limit (fun _ _ => []) cfg (by decide) (by decide)
    (.v4 peer) (.v4 peer) [x 0, x 124, x 125] ⟨by simp [x, Env.steady, Monotone],
      by simp [x, Env.steady]; decide⟩ (by simp [x, Env.steady]) peer.ip).2.1
  exact hserved.trans (by decide +kernel)

end Xash3d.MasterServer
