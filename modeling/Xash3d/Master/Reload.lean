import Xash3d.Master.Blocklist
import Xash3d.Master.Registration

/-!
# Reloads and expired entries

A reload sets the timeouts of the maps and leaves their entries, valid or not: an entry that had
expired is valid again if the timeout is raised above its age (`expired_listed_again`).
`expiry_final` says that nothing else brings it back.
-/

namespace Xash3d

open Lib AddrExt

/-- A timeout that an entry of some age had outlived was raised above the age. -/
def Raised (old new : UInt32) (age : ℕ) : Prop :=
  old.toNat ≤ RelativeTime.asSecs age ∧ RelativeTime.asSecs age < new.toNat

section Maps

variable {K V : Type} [DecidableEq K] {m₀ m : TimedHashMap K V} {k : K} {e : Timed V}
  {t t' : RelativeTime}

/-- An entry that had expired is seen again only if the timeout was raised. -/
theorem raised_of_view (he : m₀.lookup k = some e) (hexp : m₀.view t k = none)
    (hsame : ∀ e', m.lookup k = some e' → e' = e) (ht : t ≤ t') {e' : Timed V}
    (hv : m.view t' k = some e') : Raised m₀.timeout m.timeout (t.durationSince e.time) := by
  obtain ⟨hl, hvalid⟩ := TimedHashMap.view_eq_some.1 hv
  obtain rfl := hsame e' hl
  have hold : ¬ e'.isValid t m₀.timeout = true := by
    intro h
    rw [TimedHashMap.view_eq_some.2 ⟨he, h⟩] at hexp
    cases hexp
  have hnew := Timed.isValid_of_le ht hvalid
  unfold Timed.isValid at hold hnew
  rw [decide_eq_true_eq] at hold hnew
  exact ⟨not_lt.1 hold, hnew⟩

end Maps

namespace MasterServer

variable {Addr Ip : Type} [AddrExt Addr Ip] [DecidableEq Addr] [DecidableEq Ip]
  {blake2b : HashConfig → Bytes → Bytes} {s : MasterServer Addr Ip} {A : Addr}

/-- An address registers a server. -/
def AddsServer (s : MasterServer Addr Ip) : Event Addr → Addr → Prop
  | .arrival y, A => y.sender = wrap A ∧ ip A ∉ s.blocklist ∧
      ∃ msg e, Registers s ⟨y.env, A, y.src⟩ msg e
  | .reload _ _, _ => False

/-- An address is issued a new challenge. -/
def GetsChallenge (s : MasterServer Addr Ip) : Event Addr → Addr → Prop
  | .arrival y, A => y.sender = wrap A ∧ ip A ∉ s.blocklist ∧
      ∃ e, Issues s ⟨y.env, A, y.src⟩ A e
  | .reload _ _, _ => False

/-! ## One event -/

omit [AddrExt Addr Ip] [DecidableEq Ip] in
/-- A reload issues no challenge. -/
theorem updateConfig_challenges (host : Host) (s : MasterServer Addr Ip) (cfg : MasterConfig)
    {e : Timed UInt32} (h : (s.updateConfig host cfg).1.challenges.lookup A = some e) :
    s.challenges.lookup A = some e := by
  rcases updateConfig_cases host s cfg with ⟨sock, hc⟩ | ⟨addr, hc | ⟨sock, hc⟩⟩ <;> rw [hc] at h
  · exact h
  · exact h
  · cases h

/-- The entry of a server stays or goes, unless its address registers. -/
theorem lookup_turn {x : Event Addr} (hx : ¬ AddsServer s x A) {e : Timed ServerInfo}
    (h : (s.turn blake2b x).servers.lookup A = some e) : s.servers.lookup A = some e := by
  rcases turn_cases blake2b s x with ⟨y, peer, rfl, hp, hb, ht⟩ | ⟨-, hservers⟩
  · rw [ht] at h
    have hA : ∀ msg e, ¬ (peer = A ∧ Registers s ⟨y.env, peer, y.src⟩ msg e) := by
      rintro msg e ⟨rfl, hr⟩
      exact hx ⟨hp, hb, msg, e, hr⟩
    rcases lookup_servers (handle_effect blake2b s ⟨y.env, peer, y.src⟩) hA with hsame | ⟨hnone, -⟩
    · rwa [← hsame]
    · rw [hnone] at h
      cases h
  · exact hservers A e h

/-- The challenge of an address stays or goes, unless the address is issued a new one. -/
theorem challenge_turn {x : Event Addr} (hx : ¬ GetsChallenge s x A) {e : Timed UInt32}
    (h : (s.turn blake2b x).challenges.lookup A = some e) : s.challenges.lookup A = some e := by
  cases x with
  | reload host cfg => exact updateConfig_challenges host s cfg h
  | arrival y =>
    replace h : (s.step blake2b y).challenges.lookup A = some e := h
    rcases step_cases blake2b s y with hs | ⟨peer, hp, hb, hs⟩
    · rwa [hs] at h
    · rw [hs] at h
      rcases challenge_created (handle_effect blake2b s ⟨y.env, peer, y.src⟩) h with hold | hnew
      · exact hold
      · obtain rfl : peer = A := hnew.peer
        exact absurd ⟨hp, hb, e, hnew⟩ hx

/-! ## Runs -/

/-- What a map has under a key after events that put nothing there is what it had before. -/
theorem lookup_turns {V : Type} (look : MasterServer Addr Ip → Option (Timed V))
    {G : MasterServer Addr Ip → Event Addr → Prop} {e : Timed V}
    (hstep : ∀ s x e', G s x → look (s.turn blake2b x) = some e' → look s = some e')
    (h : look s = some e) (xs : List (Event Addr))
    (hok : ∀ p z q, xs = p ++ z :: q → G (exec (turn blake2b) s p) z) :
    ∀ e', look (exec (turn blake2b) s xs) = some e' → e' = e := by
  refine exec_kept (Q := fun s => ∀ e', look s = some e' → e' = e) (G := G) ?_ ?_ xs hok
  · intro s x hx hs e' he'
    exact hs e' (hstep s x e' hx he')
  · intro e' he'
    exact Option.some.inj (he'.symm.trans h)

/-- Expiry is final until a reload raises the timeout. Let the entry of a server, or a challenge,
have expired at the time `t` under the timeout then in force. Unless its address registers, or is
issued a challenge, or the timeout is raised above the age the entry had at `t`, no later query
lists it, it is not counted again and it is not accepted again. -/
theorem expiry_final (blake2b : HashConfig → Bytes → Bytes) (cfg : MasterConfig)
    (sock updateAddr : SocketAddr) (p q : List (Event Addr)) (A : Addr) (t : RelativeTime) :
    let run := fun xs => exec (turn blake2b) (init cfg sock updateAddr : MasterServer Addr Ip) xs
    let s₀ := run p
    let s := run (p ++ q)
    (∀ e, s₀.servers.lookup A = some e → s₀.servers.view t A = none →
      (∀ q₁ z q₂, q = q₁ ++ z :: q₂ → ¬ AddsServer (run (p ++ q₁)) z A) →
      Raised s₀.servers.timeout s.servers.timeout (t.durationSince e.time) ∨
        (∀ x : Arrival Addr, (∀ i, t ≤ x.env.now i) →
          QueryServers.header.isPrefixOf x.src = true →
          ∀ d ∈ (s.receive blake2b x.env x.sender x.src).sent,
            Rejects s x.src d.packet ∨
            (∃ (key : Option UInt32) (part : List Addr), d.packet = page key part ∧ A ∉ part) ∨
            d.packet = (ClientAnnounce.mk x.sender).wire ∧ d.dest ≠ A) ∧
        ∀ addr t₁ t₂ i, t ≤ t₂ →
          A ∉ ({ s with servers := (s.servers.entry addr t₁).2 } :
            MasterServer Addr Ip).serversOf t₂ i) ∧
    ∀ e, s₀.challenges.lookup A = some e → s₀.challenges.view t A = none →
      (∀ q₁ z q₂, q = q₁ ++ z :: q₂ → ¬ GetsChallenge (run (p ++ q₁)) z A) →
      Raised s₀.challenges.timeout s.challenges.timeout (t.durationSince e.time) ∨
        ∀ x : Packet Addr, x.peer = A → (∀ i, t ≤ x.env.now i) → ∀ msg e', ¬ Registers s x msg e' := by
  intro run s₀ s
  have hs : s = exec (turn blake2b) s₀ q := exec_append p q
  have hrun : ∀ q₁, run (p ++ q₁) = exec (turn blake2b) s₀ q₁ := fun q₁ => exec_append p q₁
  constructor
  · intro e he hexp hq
    have hsame : ∀ e', s.servers.lookup A = some e' → e' = e := by
      rw [hs]
      exact lookup_turns (fun s => s.servers.lookup A) (G := fun s x => ¬ AddsServer s x A)
        (fun _ _ _ hx h => lookup_turn hx h) he q fun q₁ z q₂ h => hrun q₁ ▸ hq q₁ z q₂ h
    by_cases hr : Raised s₀.servers.timeout s.servers.timeout (t.durationSince e.time)
    · exact Or.inl hr
    have hunseen : ∀ t' e', t ≤ t' → ¬ s.servers.view t' A = some e' := fun t' e' ht hv =>
      hr (raised_of_view he hexp hsame ht hv)
    refine Or.inr ⟨?_, ?_⟩
    · intro x hx hheader d hd
      rcases mem_sent_receive x hheader hd with hfake | ⟨key, part, hpage, hpart⟩ | ⟨hann, e', hv⟩
      · exact Or.inl hfake
      · refine Or.inr (Or.inl ⟨key, part, hpage, fun hA => ?_⟩)
        obtain ⟨e', hv⟩ := hpart A hA
        exact hunseen _ e' (hx 2) hv
      · refine Or.inr (Or.inr ⟨hann, ?_⟩)
        rintro rfl
        exact hunseen _ e' (hx 2) hv
    · intro addr t₁ t₂ i ht hA
      obtain ⟨-, e', hv⟩ := mem_serversOf.1 hA
      obtain ⟨hl, hvalid⟩ := TimedHashMap.view_eq_some.1 hv
      refine hunseen t₂ e' ht (TimedHashMap.view_eq_some.2 ⟨?_, ?_⟩)
      · exact (TimedHashMap.sweep_entry s.servers addr t₁).eq_some hl
      · rwa [TimedHashMap.timeout_entry] at hvalid
  · intro e he hexp hq
    have hsame : ∀ e', s.challenges.lookup A = some e' → e' = e := by
      rw [hs]
      exact lookup_turns (fun s => s.challenges.lookup A) (G := fun s x => ¬ GetsChallenge s x A)
        (fun _ _ _ hx h => challenge_turn hx h) he q fun q₁ z q₂ h => hrun q₁ ▸ hq q₁ z q₂ h
    by_cases hr : Raised s₀.challenges.timeout s.challenges.timeout (t.durationSince e.time)
    · exact Or.inl hr
    · refine Or.inr ?_
      rintro x rfl hx msg e' hreg
      exact hr (raised_of_view he hexp hsame (hx 0) hreg.entry)

/-- A challenge expires after ten seconds and is not accepted six seconds later. -/
theorem expiry_final_challenge :
    let A : SocketAddrV4 := ⟨⟨⟨[10, 0, 0, 1], rfl⟩⟩, 27015⟩
    let asked : Event SocketAddrV4 := .arrival ⟨.steady ⟨0⟩ fun _ => 7, .v4 A, [0x71, 0xff]⟩
    let x : Packet SocketAddrV4 := ⟨.steady ⟨2000⟩ fun _ => 0, A,
      ascii "0\n\\protocol\\49\\challenge\\7\\version\\0.21\n"⟩
    let msg : ServerAdd := { (default : ServerAdd) with
      protocol := 49, challenge := 7, version := .new 0 21 }
    let s := exec (turn fun _ _ => []) (init {} (.v4 A) (.v4 A) : MasterServer _ Ipv4Addr) [asked]
    ServerAdd.decode x.src = .ok msg ∧ s.challenges.lookup A = some ⟨⟨0⟩, 7⟩ ∧
      ¬ Registers s x msg ⟨⟨0⟩, 7⟩ := by
  intro A asked x msg s
  -- the run is kept as a variable, so that it is not evaluated
  have hfinal : ∀ xs, (exec (turn fun _ _ => []) (init {} (.v4 A) (.v4 A) :
        MasterServer _ Ipv4Addr) xs).challenges.lookup A = some ⟨⟨0⟩, 7⟩ →
      (exec (turn fun _ _ => []) (init {} (.v4 A) (.v4 A) :
        MasterServer _ Ipv4Addr) xs).challenges.view ⟨1250⟩ A = none →
      ¬ Registers (exec (turn fun _ _ => []) (init {} (.v4 A) (.v4 A) :
        MasterServer _ Ipv4Addr) xs) x msg ⟨⟨0⟩, 7⟩ := by
    intro xs hissued hexpired
    have hkept := (expiry_final (fun _ _ => []) {} (.v4 A) (.v4 A) xs [] A ⟨1250⟩).2 _ hissued
      hexpired fun q₁ z q₂ hq => by simp at hq
    rw [List.append_nil] at hkept
    rcases hkept with ⟨hold, hnew⟩ | hrefused
    · omega
    · exact hrefused x rfl (fun _ => show (⟨1250⟩ : RelativeTime) ≤ ⟨2000⟩ by decide) msg _
  have hissued : s.challenges.lookup A = some ⟨⟨0⟩, 7⟩ := by decide +kernel
  exact ⟨by decide +kernel, hissued, hfinal _ hissued (by decide +kernel)⟩

/-- A query that selects one server, which is not behind NAT, in the absence of a rate limit. -/
theorem sent_of_single {env : Env Addr} {peer B : Addr} {src : Bytes} {msg : QueryServers Filter}
    {v : Version} (hq : QueryServers.header.isPrefixOf src = true) (hp : ip peer ∉ s.blocklist)
    (hd : QueryServers.decode src = .ok msg) (hrate : s.cfg.server.clientRateLimit = 0)
    (hvalid : s.isQueryServersValid msg = true) (hv : msg.filter.clver = some v)
    (hlist : filterServers msg v (env.order (s.servers.iter (env.now 2))) [] [] = ([B], []))
    (hsend : ∀ n, env.send n = true) :
    (s.receive blake2b env (wrap peer) src).sent = [⟨peer, page msg.filter.key [B]⟩] := by
  have hallow : s.allowGameRequest env peer = (.ok (), s) := by
    unfold allowGameRequest
    rw [hrate, if_neg (by decide)]
  have hreceive : s.receive blake2b env (wrap peer) src = s.handleGameQueryServers env peer msg := by
    rw [receive_eq (x := ⟨env, wrap peer, src⟩) rfl hp, handlePacket_queryServers hq, hallow, hd]
    rfl
  rw [hreceive]
  unfold handleGameQueryServers
  dsimp only
  rw [hvalid, hv]
  dsimp only
  rw [hlist]
  dsimp only
  rw [if_neg (by decide), sendServerList_singleton, sendClientToNatServers_eq]
  have hpure : (if (msg.filter.containsFlags FilterFlags.nat).getD true = true then
      sends env (announcements peer []) else pure ()) = sends env ([] : List (Datagram Addr)) := by
    split_ifs <;> rfl
  rw [hpure, ← sends_append, List.append_nil, reply_sends env _ hsend]

/-- A server and a challenge expire after ten seconds; ten seconds later a reload raises the
timeouts. The server is listed and counted again, and the challenge is accepted. -/
theorem expired_listed_again :
    let cfg (seconds : UInt32) : MasterConfig :=
      { server := { timeout := { server := seconds, challenge := seconds } } }
    let sock : SocketAddr := .v4 ⟨⟨⟨[0, 0, 0, 0], rfl⟩⟩, 27010⟩
    let host : Host := ⟨some, true, true, fun _ => none⟩
    let A : SocketAddrV4 := ⟨⟨⟨[10, 0, 0, 1], rfl⟩⟩, 27015⟩
    let B : SocketAddrV4 := ⟨⟨⟨[10, 0, 0, 2], rfl⟩⟩, 27015⟩
    let arrival (ms : ℕ) (a : SocketAddrV4) (src : Bytes) : Arrival SocketAddrV4 :=
      ⟨.steady (.fromMillis ms) fun _ => 7, .v4 a, src⟩
    let challenge : Bytes := [0x71, 0xff]
    let add := ascii "0\n\\protocol\\49\\challenge\\7\\version\\0.21\n"
    let query := [0x31, 0xff] ++ ascii "0.0.0.0:0" ++ [0] ++ ascii "\\clver\\0.21\\nat\\0" ++ [0]
    let run xs := exec (turn fun _ _ => [])
      (init (cfg 10) sock sock : MasterServer SocketAddrV4 Ipv4Addr) xs
    let xs := [.arrival (arrival 0 A challenge), .arrival (arrival 0 A add),
      .arrival (arrival 0 B challenge)]
    let s := run (xs ++ [.reload host (cfg 300)])
    (run xs).servers.view (.fromMillis 20000) A = none ∧
      (run xs).challenges.view (.fromMillis 20000) B = none ∧
      (s.receive (fun _ _ => []) (arrival 20000 B query).env (.v4 B) query).sent =
        [⟨B, page none [A]⟩] ∧
      s.serversOf (.fromMillis 20000) A.ip = [A] ∧
      ∃ msg e, Registers s ⟨.steady (.fromMillis 20000) fun _ => 7, B, add⟩ msg e := by
  intro cfg sock host A B arrival challenge add query run xs s
  refine ⟨by decide +kernel, by decide +kernel, ?_, by decide +kernel, ?_⟩
  · let msg : QueryServers Filter := .new { (default : Filter) with
      clver := some (.new 0 21), flagsMask := FilterFlags.nat }
    have hd : QueryServers.decode query = .ok msg := by decide +kernel
    have hvalid : s.isQueryServersValid msg = true := by decide +kernel
    have hlist : filterServers msg (.new 0 21)
        ((arrival 20000 B query).env.order (s.servers.iter ((arrival 20000 B query).env.now 2)))
        [] [] = ([A], []) := by decide +kernel
    have hp : B.ip ∉ s.blocklist := by decide +kernel
    have hrate : s.cfg.server.clientRateLimit = 0 := by decide +kernel
    exact @sent_of_single SocketAddrV4 Ipv4Addr _ _ _ (fun _ _ => []) s (arrival 20000 B query).env
      B A query msg (.new 0 21) (by decide) hp hd hrate hvalid rfl hlist fun _ => rfl
  refine ⟨{ (default : ServerAdd) with protocol := 49, challenge := 7, version := .new 0 21 },
    ⟨⟨0⟩, 7⟩, ?_, ?_, ?_, ?_, ?_⟩ <;> decide +kernel

end MasterServer

end Xash3d
