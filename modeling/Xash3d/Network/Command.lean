import Xash3d.Admin.SendCommand
import Xash3d.Master.AdminRuns
import Xash3d.Network.Client

/-!
# An admin and a master

An admin is a client of a master that sends a request and then a command. What the master executes of
it is the command it has signed with a pair the master issued to its IP address, once for each time the
first challenge of the pair is issued (`executes_signed`). A command that is delivered in time is
executed (`executes_delivered`).
-/

namespace Xash3d

open Lib AddrExt MasterServer

/-! ## The response -/

namespace AdminChallengeResponse

theorem decode_wire (r : AdminChallengeResponse) : decode r.wire = .ok r := by
  have hend : u32Le r.hashChallenge = u32Le r.hashChallenge ++ [] := (List.append_nil _).symm
  unfold decode Read.run
  rw [wire, Cursor.new_eq, Read.bind_ok (Read.lift_ok (Cursor.expect_after _ _ _)),
    Read.bind_ok (Read.lift_ok (Cursor.getU32Le_after _ _ _)), hend,
    Read.bind_ok (Read.lift_ok (Cursor.getU32Le_after _ _ _)),
    Read.bind_ok (Read.lift_ok (Cursor.expectEmpty_after _))]
  rfl

theorem length_wire (r : AdminChallengeResponse) : r.wire.length = 26 := by
  have hheader : header.length = 18 := by decide
  simp [wire, hheader]

end AdminChallengeResponse

/-- A packet that is decoded to a pair of challenges has their header. -/
theorem MasterPacket.adminChallengeResponse_of_decode {parseAddr : Bytes → Option SocketAddr}
    {data : Bytes} {r : AdminChallengeResponse}
    (h : MasterPacket.decode parseAddr data = .ok (some (.adminChallengeResponse r))) :
    AdminChallengeResponse.decode data = .ok r := by
  have hmap : ∀ {α : Type} {f : α → MasterPacket} {d : Except ProtocolError α},
      d.map (some ∘ f) = .ok (some (.adminChallengeResponse r)) →
        ∃ p, d = .ok p ∧ f p = .adminChallengeResponse r := by
    intro α f d hd
    cases d with
    | error e => cases hd
    | ok p => exact ⟨p, rfl, Option.some.inj (Except.ok.inj hd)⟩
  unfold MasterPacket.decode at h
  split_ifs at h
  · obtain ⟨p, -, hp⟩ := hmap h
    cases hp
  · obtain ⟨p, -, hp⟩ := hmap h
    cases hp
  · obtain ⟨p, -, hp⟩ := hmap h
    cases hp
  · obtain ⟨p, hd, hp⟩ := hmap h
    cases hp
    exact hd
  · cases h

namespace AdminCommand

/-- Whatever length is taken for the hash, the challenge is read. -/
theorem masterChallenge_of_decode {n : ℕ} {m msg : AdminCommand}
    (h : decodeWithHashLen n m.wire = .ok msg) : msg.masterChallenge = m.masterChallenge := by
  unfold decodeWithHashLen Read.run at h
  rw [wire, Cursor.new_eq, Read.bind_ok (Read.lift_ok (Cursor.expect_after _ _ _)),
    Read.bind_ok (Read.lift_ok (Cursor.getU32Le_after _ _ _))] at h
  refine Read.Returns.bind_any (Q := fun msg => msg.masterChallenge = m.masterChallenge)
    (fun hash => ?_) _ msg _ (Prod.ext h rfl)
  exact .bind_any fun s => .bind_any fun command => .bind_any fun _ => .pure rfl

end AdminCommand

namespace MasterServer

variable {Addr Ip : Type} [AddrExt Addr Ip] [DecidableEq Addr] [DecidableEq Ip]
  {blake2b : HashConfig → Bytes → Bytes} {s : MasterServer Addr Ip} {P : Ip}
  {e : Timed (UInt32 × UInt32)}

/-- Among the replies of a master only those to a request hold a pair. -/
theorem Replies.adminIssues {x : Packet Addr} {d : Datagram Addr} (h : Replies s x d)
    (hheader : AdminChallengeResponse.header <+: d.packet) :
    ∃ e, AdminIssues s x (ip x.peer) e ∧
      d = ⟨x.peer, AdminChallengeResponse.wire ⟨e.value.1, e.value.2⟩⟩ := by
  have hother : ∀ header, ¬ AdminChallengeResponse.header <+: header ∧
      ¬ header <+: AdminChallengeResponse.header → ¬ header <+: d.packet := by
    intro header hd hp
    exact not_isPrefixOf hd (List.isPrefixOf_iff_prefix.2 hheader) (List.isPrefixOf_iff_prefix.2 hp)
  have hpage : ∀ {S : Type} [ServerAddress S] (key : Option UInt32) (part : List S),
      QueryServersResponse.header <+: page key part := by
    intro S _ key part
    exact (List.prefix_append _ _).trans (List.prefix_append _ _)
  cases h with
  | challenge msg hm =>
    exact absurd (List.prefix_append _ _) (hother ChallengeResponse.header (by decide +kernel))
  | list query hask hvalid parts part hpart hparts hfits =>
    exact absurd (hpage _ _) (hother QueryServersResponse.header (by decide +kernel))
  | fake query hask hvalid =>
    refine absurd ?_ (hother QueryServersResponse.header (by decide +kernel))
    cases s.updateAddr <;> exact hpage _ _
  | announce query hask hvalid A e he hnat hfilter =>
    exact absurd (List.prefix_append _ _) (hother ClientAnnounce.header (by decide +kernel))
  | info msg hanswers hfits =>
    exact absurd (List.prefix_append _ _) (hother GetServerInfoResponse.header (by decide +kernel))
  | adminChallenge e hissues => exact ⟨e, hissues, rfl⟩

end MasterServer

/-- The admin as a client of the master it is connected to. -/
def adminClient (me host : SocketAddr) : Client Admin.Action where
  address := me
  sends a dest packet := dest = host ∧ a = .send packet true
  takes a sender packet := sender = host ∧ a = .recv packet

namespace Command

open Client Admin

variable {Addr Ip : Type} [AddrExt Addr Ip] [DecidableEq Addr] [DecidableEq Ip]

/-- The master executes a command that arrives from an address. -/
structure ExecutesAt (blake2b : HashConfig → Bytes → Bytes) (s : MasterServer Addr Ip)
    (x : Arrival Addr) (peer : Addr) (e : Timed (UInt32 × UInt32)) (msg : AdminCommand) : Prop where
  sender : x.sender = wrap peer
  notBanned : ip peer ∉ s.blocklist
  executes : Executes blake2b s ⟨x.env, peer, x.src⟩ e msg

/-- A history of an admin at `peer` and a master at `host`: the network makes no packet up, and the
admin has begun its run, or finished it. -/
structure History (blake2b : HashConfig → Bytes → Bytes) (s₀ : MasterServer Addr Ip)
    (parseAddr : Bytes → Option SocketAddr) (sys : Admin.System) (cli : Cli) (peer : Addr)
    (host : SocketAddr) (es : List (Step Admin.Action Addr)) : Prop where
  ne : (wrap peer : SocketAddr) ≠ host
  carried : ((adminClient (wrap peer) host).network blake2b s₀ host).Carried es
  client : es.filterMap Step.client? <+: cli.trace blake2b parseAddr sys

/-- A packet is the command of the admin, signed with a pair that the master issued to it before. -/
structure Signed (blake2b : HashConfig → Bytes → Bytes) (s₀ : MasterServer Addr Ip)
    (sys : Admin.System) (cli : Cli) (peer : Addr) (before : List (Step Admin.Action Addr))
    (packet password : Bytes) (c : UInt32 × UInt32) (p : List (Step Admin.Action Addr)) (y : Arrival Addr)
    (r : List (Step Admin.Action Addr)) : Prop where
  entered : sys.readPassword = .ok (some password)
  packet_eq : packet = (cli.signed blake2b password c).wire
  before_eq : before = p ++ .master (.arrival y) :: r
  sender : y.sender = wrap peer
  notBanned : ip peer ∉ (masterAt blake2b s₀ p).blocklist
  issues : AdminIssues (masterAt blake2b s₀ p) ⟨y.env, peer, y.src⟩ (ip peer) ⟨y.env.now 1, c⟩

variable {blake2b : HashConfig → Bytes → Bytes} {s₀ : MasterServer Addr Ip}
  {parseAddr : Bytes → Option SocketAddr} {sys : Admin.System} {cli : Cli} {peer : Addr}
  {host : SocketAddr} {es before q : List (Step Admin.Action Addr)} {x : Arrival Addr}

/-- The admin sends one packet beside its request, at the end. -/
theorem History.sent (h : History blake2b s₀ parseAddr sys cli peer host es)
    (hes : es = before ++ .master (.arrival x) :: q) (hx : x.sender = wrap peer)
    (hsrc : x.src ≠ AdminChallenge.header) : ∃ p₁ p₂ u password c datagram,
      before = p₁ ++ .client (.send x.src true) :: p₂ ∧ p₁.filterMap Step.client? = u ∧
      cli.trace blake2b parseAddr sys = u ++ [.send x.src true] ∧
      Prepares parseAddr sys password c datagram u ∧
      x.src = (cli.signed blake2b password c).wire := by
  subst hes
  obtain ⟨p₁, a, p₂, rfl, hsends⟩ := exists_send h.ne h.carried hx
  obtain ⟨-, rfl⟩ : host = host ∧ a = .send x.src true := hsends
  obtain ⟨v, hv⟩ := h.client
  have htrace : cli.trace blake2b parseAddr sys =
      p₁.filterMap Step.client? ++ .send x.src true ::
        (p₂.filterMap Step.client? ++ (q.filterMap Step.client? ++ v)) := by
    rw [← hv]
    simp [Step.client?, List.filterMap_cons]
  rcases (trace_cli blake2b parseAddr sys cli).send htrace with ⟨hheader, -⟩ |
    ⟨password, c, datagram, hprepares, hpacket, hend⟩
  · exact absurd hheader hsrc
  · rw [hend] at htrace
    exact ⟨p₁, p₂, _, password, c, datagram, rfl, rfl, htrace, hprepares, hpacket⟩

/-- A packet of the admin that is no request is its signed command. -/
theorem History.signed (h : History blake2b s₀ parseAddr sys cli peer host es)
    (hes : es = before ++ .master (.arrival x) :: q) (hx : x.sender = wrap peer)
    (hsrc : x.src ≠ AdminChallenge.header) : ∃ password c p y r,
      Signed blake2b s₀ sys cli peer before x.src password c p y r := by
  obtain ⟨p₁, p₂, u, password, c, datagram, rfl, hu, -, hprepares, hpacket⟩ := h.sent hes hx hsrc
  subst hes
  -- the response was taken before the command was sent
  rw [hprepares.trace] at hu
  obtain ⟨p', e, q', rfl, -, he, -⟩ := exists_split_of_filterMap (u := [_]) hu
  obtain rfl := Step.client?_eq_some he
  have hdecode := MasterPacket.adminChallengeResponse_of_decode hprepares.decoded
  have hheader : AdminChallengeResponse.header <+: datagram :=
    (List.isPrefixOf_iff_prefix.1 (isPrefixOf_of_run hdecode)).trans (List.take_prefix 512 datagram)
  have hcarried : ((adminClient (wrap peer) host).network blake2b s₀ host).Carried
      (p' ++ .client (.recv datagram) :: q') := by
    refine Network.Carried.left (q := .client (.send x.src true) :: p₂ ++
      .master (.arrival x) :: q) ?_
    simpa using h.carried
  have hno : ¬ ClientAnnounce.header.isPrefixOf datagram = true :=
    not_isPrefixOf (by decide +kernel) (List.isPrefixOf_iff_prefix.2 hheader)
  obtain ⟨r₁, b, r₂, y, r₃, peer', d, rfl, -, hy, hpeer, rfl, hb, hreplies⟩ :=
    exists_request h.ne hcarried ⟨rfl, rfl⟩ fun hp => hno (List.isPrefixOf_iff_prefix.2 hp)
  obtain rfl : peer' = peer := wrap_injective hpeer.symm
  obtain ⟨e, hissues, rfl⟩ := hreplies.adminIssues hheader
  -- the pair is read from the response as it was written
  rw [List.take_of_length_le (by rw [AdminChallengeResponse.length_wire]; decide),
    AdminChallengeResponse.decode_wire] at hdecode
  obtain ⟨hc1, hc2⟩ := AdminChallengeResponse.mk.inj (Except.ok.inj hdecode)
  have he : e = ⟨y.env.now 1, c⟩ := by
    obtain ⟨t, v⟩ := e
    obtain rfl : t = y.env.now 1 := congrArg Timed.time hissues.entry
    exact congrArg _ (Prod.ext hc1 hc2)
  exact ⟨password, c, r₁ ++ .client b :: r₂, y, _, hprepares.password, hpacket, by
    rw [List.append_assoc, List.append_assoc, List.cons_append], hy, hb, he ▸ hissues⟩

/-- Between two commands of an IP address a pair with the first challenge of the second one is
issued. -/
theorem issued_between {b m : List (Step Admin.Action Addr)} {z : Arrival Addr}
    {e e' : Timed (UInt32 × UInt32)} {msg msg' : AdminCommand}
    (h0 : s₀.adminChallenges.lookup (ip peer) = none)
    (hbefore : before = b ++ .master (.arrival z) :: m)
    (hx : ExecutesAt blake2b (masterAt blake2b s₀ before) x peer e msg)
    (hz : ExecutesAt blake2b (masterAt blake2b s₀ b) z peer e' msg') :
    ∃ m₁ y m₂, m = m₁ ++ .master y :: m₂ ∧
      Handles (masterAt blake2b s₀ (b ++ .master (.arrival z) :: m₁)) (fun w =>
        AdminIssues (masterAt blake2b s₀ (b ++ .master (.arrival z) :: m₁)) w (ip peer) e) y := by
  obtain ⟨ys, y, zs, hsplit, hissues, hlater⟩ := pair_of_lookup h0 (before.filterMap Step.event?)
    (TimedHashMap.view_eq_some.1 hx.executes.entry).1
  rw [hbefore, Step.events_append_cons] at hsplit
  have hfrom : ∀ s : MasterServer Addr Ip, s = masterAt blake2b s₀ b →
      Handles s (fun x => ExecutesFrom blake2b s x (ip peer)) (.arrival z) := by
    rintro s rfl
    exact ⟨peer, hz.sender, hz.notBanned, rfl, e', msg', hz.executes⟩
  rcases append_cons_eq_append_cons hsplit with ⟨r, hm, rfl⟩ | ⟨rfl, rfl, -⟩ | ⟨r, rfl, hb⟩
  · obtain ⟨m₁, y', m₂, rfl, rfl, hy', -⟩ := exists_split_of_filterMap hm
    obtain rfl := Step.event?_eq_some hy'
    refine ⟨m₁, y, m₂, rfl, ?_⟩
    unfold masterAt
    rwa [Step.events_append_cons]
  · -- a command is no request
    obtain ⟨peer', hpeer', -, hi⟩ := hissues
    obtain rfl : peer = peer' := wrap_injective (hz.sender.symm.trans hpeer')
    exact absurd (isPrefixOf_of_adminIssues hi) hz.executes.notRequest
  · refine absurd ?_ (hlater r (.arrival z) _ rfl)
    rw [← hb]
    exact (hfrom _ rfl).mono fun x hx => Or.inr hx

/-- What a master executes of an admin is the command that the admin has signed, with its password and
a pair that the master issued to its IP address. It is executed again only if its first challenge is
issued again in between. -/
theorem executes_signed (blake2b : HashConfig → Bytes → Bytes) (cfg : MasterConfig)
    (sock updateAddr : SocketAddr) (parseAddr : Bytes → Option SocketAddr)
    (sys : Admin.System) (cli : Cli) (peer : Addr) (host : SocketAddr)
    (es before q : List (Step Admin.Action Addr)) (x : Arrival Addr)
    (e : Timed (UInt32 × UInt32)) (msg : AdminCommand) :
    let s₀ : MasterServer Addr Ip := init cfg sock updateAddr
    let s := masterAt blake2b s₀ before
    History blake2b s₀ parseAddr sys cli peer host es → es = before ++ .master (.arrival x) :: q →
    ExecutesAt blake2b s x peer e msg →
    (∃ password c p y r, Signed blake2b s₀ sys cli peer before x.src password c p y r ∧
      e.value.1 = c.1 ∧ (isUtf8 cli.command = true →
        (cli.signed blake2b password c).hash.length = s.cfg.hash.len →
        msg = cli.signed blake2b password c)) ∧
    ∀ b z m e' msg', before = b ++ .master (.arrival z) :: m →
      ExecutesAt blake2b (masterAt blake2b s₀ b) z peer e' msg' →
      z.src = x.src ∧ e.value.1 = e'.value.1 ∧ ∃ m₁ y m₂, m = m₁ ++ .master y :: m₂ ∧
        Handles (masterAt blake2b s₀ (b ++ .master (.arrival z) :: m₁)) (fun w =>
          AdminIssues (masterAt blake2b s₀ (b ++ .master (.arrival z) :: m₁)) w (ip peer) e) y := by
  intro s₀ s h hes hx
  have hne : ∀ {s : MasterServer Addr Ip} {z : Arrival Addr} {e' msg'},
      ExecutesAt blake2b s z peer e' msg' → z.src ≠ AdminChallenge.header := by
    intro s z e' msg' hz hsrc
    refine hz.executes.notRequest ?_
    show AdminChallenge.header.isPrefixOf z.src = true
    rw [hsrc]
    decide
  constructor
  · obtain ⟨password, c, p, y, r, hsigned⟩ := h.signed hes hx.sender (hne hx)
    have hdecoded := hx.executes.decoded
    replace hdecoded : AdminCommand.decodeWithHashLen s.cfg.hash.len x.src = .ok msg := hdecoded
    rw [hsigned.packet_eq] at hdecoded
    refine ⟨password, c, p, y, r, hsigned, ?_, fun hu hlen => ?_⟩
    · rw [hx.executes.challenge]
      exact AdminCommand.masterChallenge_of_decode hdecoded
    · rw [← hlen, AdminCommand.decodeWithHashLen_wire hu] at hdecoded
      exact (Except.ok.inj hdecoded).symm
  · intro b z m e' msg' hbefore hz
    have hes' : es = b ++ .master (.arrival z) :: (m ++ .master (.arrival x) :: q) := by
      rw [hes, hbefore, List.append_assoc, List.cons_append]
    -- the admin sends one command
    obtain ⟨-, -, u, password, c, -, -, -, htrace, -, hsrc⟩ := h.sent hes hx.sender (hne hx)
    obtain ⟨-, -, u', -, -, -, -, -, htrace', -, -⟩ := h.sent hes' hz.sender (hne hz)
    have hsame : z.src = x.src := by
      have hlast := (List.append_inj' (htrace'.symm.trans htrace) rfl).2
      exact (Admin.Action.send.inj (List.cons.inj hlast).1).1
    refine ⟨hsame, ?_, issued_between rfl hbefore hx hz⟩
    have hdecoded := hx.executes.decoded
    have hdecoded' := hz.executes.decoded
    replace hdecoded : AdminCommand.decodeWithHashLen _ x.src = .ok msg := hdecoded
    replace hdecoded' : AdminCommand.decodeWithHashLen _ z.src = .ok msg' := hdecoded'
    rw [hsame, hsrc] at hdecoded'
    rw [hsrc] at hdecoded
    rw [hx.executes.challenge, hz.executes.challenge,
      AdminCommand.masterChallenge_of_decode hdecoded, AdminCommand.masterChallenge_of_decode hdecoded']

/-! ## Commands that are delivered -/

/-- The pair that `y` is answered with is left alone until `x` comes, within `D` seconds. -/
structure InTime (blake2b : HashConfig → Bytes → Bytes) (s₀ : MasterServer Addr Ip) (D : ℕ) (P : Ip)
    (p : List (Step Admin.Action Addr)) (y : Arrival Addr) (r : List (Step Admin.Action Addr))
    (x : Arrival Addr) : Prop where
  timeout : D ≤ (masterAt blake2b s₀ p).adminChallenges.timeout.toNat
  cleanup : (y.env.now 2).durationSince (y.env.now 1) < D * 1000
  left : ∀ r₁ z r₂, r = r₁ ++ .master z :: r₂ → LeavesPair blake2b D (y.env.now 1) P
    (masterAt blake2b s₀ (p ++ .master (.arrival y) :: r₁)) z
  inTime : (x.env.now 1).durationSince (y.env.now 1) < D * 1000

/-- The master and the admin agree on the hash, the password is right, and the IP address of the admin
is neither banned nor locked out. -/
structure Accepts (blake2b : HashConfig → Bytes → Bytes) (s : MasterServer Addr Ip) (x : Arrival Addr)
    (peer : Addr) (cli : Cli) (password : Bytes) : Prop where
  notBanned : ip peer ∉ s.blocklist
  notLimited : s.adminLimit.view (x.env.now 0) (ip peer) = none
  hash : s.cfg.hash = cli.hash
  length : ∀ c, (cli.signed blake2b password c).hash.length = cli.hash.len
  admin : ∃ i ∈ s.cfg.adminList, i.password = password

theorem InTime.holds {D : ℕ} {p r : List (Step Admin.Action Addr)} {y : Arrival Addr}
    {e : Timed (UInt32 × UInt32)} (h : InTime blake2b s₀ D (ip peer) p y r x)
    (hy : y.sender = wrap peer) (hb : ip peer ∉ (masterAt blake2b s₀ p).blocklist)
    (hi : AdminIssues (masterAt blake2b s₀ p) ⟨y.env, peer, y.src⟩ (ip peer) e) :
    HoldsPair D (ip peer) e (masterAt blake2b s₀ (p ++ .master (.arrival y) :: r)) := by
  have htime : e.time = y.env.now 1 := congrArg Timed.time hi.entry
  have hstep : ∀ (s : MasterServer Addr Ip) z, LeavesPair blake2b D e.time (ip peer) s z →
      HoldsPair D (ip peer) e s →
      HoldsPair D (ip peer) e (s.turn blake2b z) := fun s z hz hs => HoldsPair.turn hz hs
  rw [masterAt_append_cons]
  refine exec_kept hstep ?_ _ fun u z v huv => ?_
  · rw [turn_arrival hy hb]
    exact HoldsPair.issued hi h.timeout h.cleanup
  · obtain ⟨r₁, z', r₂, rfl, rfl, hz', -⟩ := exists_split_of_filterMap huv
    obtain rfl := Step.event?_eq_some hz'
    rw [htime, ← masterAt_append_cons]
    exact h.left r₁ z r₂ rfl

/-- A command of an admin that is delivered in time is executed, and is the one of its command line,
if the admin knows the password and no other admin at its IP address disturbs it. -/
theorem executes_delivered (blake2b : HashConfig → Bytes → Bytes) (cfg : MasterConfig)
    (sock updateAddr : SocketAddr) (parseAddr : Bytes → Option SocketAddr)
    (sys : Admin.System) (cli : Cli) (peer : Addr) (host : SocketAddr)
    (es before q : List (Step Admin.Action Addr)) (x : Arrival Addr)
    (hu : isUtf8 cli.command = true) :
    let s₀ : MasterServer Addr Ip := init cfg sock updateAddr
    let s := masterAt blake2b s₀ before
    History blake2b s₀ parseAddr sys cli peer host es → es = before ++ .master (.arrival x) :: q →
    x.sender = wrap peer → x.src ≠ AdminChallenge.header →
    ∃ password c p y r, Signed blake2b s₀ sys cli peer before x.src password c p y r ∧
      ∀ D, InTime blake2b s₀ D (ip peer) p y r x → Accepts blake2b s x peer cli password →
        ¬ (cli.signed blake2b password c).Collides →
        ExecutesAt blake2b s x peer ⟨y.env.now 1, c⟩ (cli.signed blake2b password c) ∧
        masterAt blake2b s₀ (before ++ [.master (.arrival x)]) =
          s.executed ⟨x.env, peer, x.src⟩ (cli.signed blake2b password c) := by
  intro s₀ s h hes hx hsrc
  obtain ⟨password, c, p, y, r, hsigned⟩ := h.signed hes hx hsrc
  refine ⟨password, c, p, y, r, hsigned, fun D hD haccepts hcollides => ?_⟩
  have hholds : HoldsPair D (ip peer) ⟨y.env.now 1, c⟩ s := by
    show HoldsPair D (ip peer) _ (masterAt blake2b s₀ before)
    rw [hsigned.before_eq]
    exact hD.holds hsigned.sender hsigned.notBanned hsigned.issues
  have hexecutes : Executes blake2b s ⟨x.env, peer, x.src⟩ ⟨y.env.now 1, c⟩
      (cli.signed blake2b password c) := by
    rw [hsigned.packet_eq]
    refine ⟨⟨AdminCommand.isPrefixOf_wire _, mt (AdminCommand.collides_iff _).1 hcollides,
      haccepts.notLimited, ?_, ?_, rfl⟩, ?_⟩
    · rw [haccepts.hash, ← haccepts.length c]
      exact AdminCommand.decodeWithHashLen_wire hu
    · exact TimedHashMap.view_eq_some.2 ⟨hholds.lookup, hholds.isValid hD.inTime⟩
    · obtain ⟨i, hi, rfl⟩ := haccepts.admin
      exact ⟨i, hi, by rw [haccepts.hash]; rfl⟩
  refine ⟨⟨hx, haccepts.notBanned, hexecutes⟩, ?_⟩
  rw [masterAt_append_cons, turn_arrival hx haccepts.notBanned, ← handle_of_executes hexecutes]
  rfl

/-! ### A command that is executed -/

def adminAddr : SocketAddrV4 := ⟨.new 10 0 0 2, 5000⟩

def hostAddr : SocketAddrV4 := ⟨.new 10 0 0 1, 27010⟩

def banCli : Cli := { command := ascii "ban 10.0.0.3", hash := { len := 1 } }

def banConfig : MasterConfig where
  server := { ip := .v4 hostAddr.ip }
  hash := { len := 1 }
  adminList := [⟨ascii "admin", ascii "pass"⟩]

/-- A system where the admin is answered and enters the password. -/
def banSystem : Admin.System where
  send _ := true
  recv := some (AdminChallengeResponse.wire ⟨7, 8⟩)
  readPassword := .ok (some (ascii "pass"))

def banRequest : Arrival SocketAddrV4 :=
  ⟨.steady ⟨0⟩ fun n => if n = 0 then 7 else 8, .v4 adminAddr, AdminChallenge.header⟩

def banCommand : Arrival SocketAddrV4 :=
  ⟨.steady ⟨125⟩ fun _ => 0, .v4 adminAddr, AdminCommand.wire ⟨7, [0], ascii "ban 10.0.0.3"⟩⟩

/-- The steps before the command arrives. -/
def banSteps : List (Step Admin.Action SocketAddrV4) :=
  [.client (.send AdminChallenge.header true), .master (.arrival banRequest),
    .client (.recv (AdminChallengeResponse.wire ⟨7, 8⟩)), .client .readPassword,
    .client (.send banCommand.src true)]

def banStart : MasterServer SocketAddrV4 Ipv4Addr := init banConfig (.v4 hostAddr) (.v4 hostAddr)

theorem history_ban : History (fun _ _ => [0]) banStart (fun _ => none) banSystem banCli adminAddr
    (.v4 hostAddr) (banSteps ++ [.master (.arrival banCommand)]) := by
  refine ⟨by decide, ?_, by decide +kernel⟩
  set n := (adminClient (wrap adminAddr) (.v4 hostAddr)).network (fun _ _ => [0]) banStart
    (.v4 hostAddr)
  have hsend : n.Carried [.client (.send AdminChallenge.header true)] := by
    refine Network.carried_nil.append [_] fun e he m hm => ?_
    obtain rfl := List.mem_singleton.1 he
    cases hm with
    | client a packet ha => cases ha.2
  have hrequest : n.Carried (banSteps.take 2) := by
    refine Network.carried_snoc.2 ⟨hsend, fun m hm => ?_⟩
    cases hm with
    | master x hx => exact ⟨[], _, [], rfl, Sends.client _ _ _ _ ⟨rfl, rfl⟩⟩
  have hresponse : n.Carried (banSteps.take 3) := by
    refine Network.carried_snoc.2 ⟨hrequest, fun m hm => ?_⟩
    cases hm with
    | client a packet ha =>
      obtain rfl : packet = _ := (Admin.Action.recv.inj ha.2).symm
      have hsent : (⟨adminAddr, AdminChallengeResponse.wire ⟨7, 8⟩⟩ : Datagram SocketAddrV4) ∈
          ((masterAt (fun _ _ => [0]) banStart (banSteps.take 1)).receive (fun _ _ => [0])
            banRequest.env banRequest.sender banRequest.src).sent := by decide +kernel
      exact ⟨banSteps.take 1, _, [], rfl, Sends.master _ _ _ hsent⟩
  have hcommand : n.Carried banSteps := by
    refine hresponse.append [.client .readPassword, .client (.send banCommand.src true)]
      fun e he m hm => ?_
    simp only [List.mem_cons, List.not_mem_nil, or_false] at he
    rcases he with rfl | rfl <;> cases hm with
    | client a packet ha => cases ha.2
  refine Network.carried_snoc.2 ⟨hcommand, fun m hm => ?_⟩
  cases hm with
  | master x hx => exact ⟨banSteps.take 4, _, [], rfl, Sends.client _ _ _ _ ⟨rfl, rfl⟩⟩

theorem executesAt_ban : ExecutesAt (fun _ _ => [0]) (masterAt (fun _ _ => [0]) banStart banSteps)
    banCommand adminAddr ⟨⟨0⟩, (7, 8)⟩ ⟨7, [0], ascii "ban 10.0.0.3"⟩ := by
  refine ⟨rfl, by decide +kernel, ⟨⟨?_, ?_, ?_, ?_, ?_, ?_⟩, ?_⟩⟩ <;> decide +kernel

theorem executes_signed_ban : ∃ password c p y r,
    Signed (fun _ _ => [0]) banStart banSystem banCli adminAddr banSteps banCommand.src
      password c p y r ∧ c.1 = 7 := by
  obtain ⟨⟨password, c, p, y, r, hsigned, hc, -⟩, -⟩ := executes_signed (fun _ _ => [0]) banConfig
    (.v4 hostAddr) (.v4 hostAddr) (fun _ => none) banSystem banCli adminAddr (.v4 hostAddr) _
    banSteps []
    banCommand ⟨⟨0⟩, (7, 8)⟩ ⟨7, [0], ascii "ban 10.0.0.3"⟩ history_ban rfl executesAt_ban
  exact ⟨password, c, p, y, r, hsigned, hc.symm⟩

theorem executes_delivered_ban : ∃ c,
    ExecutesAt (fun _ _ => [0]) (masterAt (fun _ _ => [0]) banStart banSteps) banCommand adminAddr
      ⟨⟨0⟩, c⟩ (banCli.signed (fun _ _ => [0]) (ascii "pass") c) := by
  obtain ⟨password, c, p, y, r, hsigned, hexecutes⟩ := executes_delivered (fun _ _ => [0]) banConfig
    (.v4 hostAddr) (.v4 hostAddr) (fun _ => none) banSystem banCli adminAddr (.v4 hostAddr) _
    banSteps []
    banCommand (by decide +kernel) history_ban rfl rfl (by decide)
  obtain rfl : ascii "pass" = password := Option.some.inj (Except.ok.inj hsigned.entered)
  -- the only event of the master before the command is the request
  have hnone : ∀ z, .master z ∉ banSteps.drop 2 := by
    intro z hz
    simp [banSteps] at hz
  obtain ⟨rfl, rfl, rfl⟩ : p = banSteps.take 1 ∧ y = banRequest ∧ r = banSteps.drop 2 := by
    have hsteps := hsigned.before_eq
    rcases p with _ | ⟨a, _ | ⟨b, p⟩⟩
    · simp [banSteps] at hsteps
    · simp only [banSteps, List.cons_append, List.nil_append, List.cons.injEq, Step.master.injEq,
        MasterServer.Event.arrival.injEq] at hsteps
      obtain ⟨rfl, rfl, rfl⟩ := hsteps
      exact ⟨rfl, rfl, rfl⟩
    · refine absurd ?_ (hnone (.arrival y))
      rw [hsteps]
      simp
  refine ⟨c, (hexecutes 10 ⟨by decide +kernel, by decide, fun r₁ z r₂ hr => ?_, by decide⟩
    ⟨by decide +kernel, by decide +kernel, rfl, fun _ => rfl, ⟨_, List.mem_singleton_self _, rfl⟩⟩
    ?_).1⟩
  · exact absurd (hr ▸ by simp) (hnone z)
  · rw [← AdminCommand.collides_iff, ← hsigned.packet_eq]
    decide +kernel

end Command

end Xash3d
