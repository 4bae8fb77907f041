import Iso21177.Ssl.Ends

/-!
# Two Ends and the Messages between Them

A client and a server on one connection, with the messages that are on their way (`Net`). An end
reads the message that was sent first of those on their way to it, and what it writes goes
behind those on their way to the other; else either does what it likes, in any interleaving.
Nothing is lost or made up on the way, and nothing overtakes.

So what an end has yet to hear is what is on its way (`Carried`), and in whatever way the steps
of the two ends interleave, what they have on record agrees, and neither waits for the other
before the handshake is over.

## Main definitions

* `Net`, `NetEvent`, `Net.step`: The two ends and their steps.
* `Event.ownStep`, `spoken`: What an end does by itself, and what it says.
* `Carried`: What the steps keep.

## Theorems

* `said_own`, `said_other`: The lines of one side.
* `settled_ownStep`: What an end does by itself begins no handshake.
* `dialogue_ownStep`, `dialogue_taken`: What a step adds to a record.
* `carried_step`: One step.
* `network_agrees`, `network_agrees_served`: Every run.
-/

namespace Iso21177

variable {ω ω' : Type}

/-- A client, a server, and the messages on their way, the first one first. -/
structure Net (ω ω' : Type) where
  client : SSL ω
  server : SSL ω'
  toServer : List Msg
  toClient : List Msg

/-- What can happen: an end takes the next message, or does something by itself. -/
inductive NetEvent
  | take (server : Bool)
  | own (server : Bool) (ev : Event)

/-- What an end does by itself during a connection. -/
def Event.ownStep : Event → Bool
  | .write | .reenter | .config _ => true
  | .start _ | .read _ | .clear => false

/-- What a step added to the record. -/
def spoken (s t : SSL ω) : List Msg := (t.dialogue.drop s.dialogue.length).map Prod.snd

/-- One step of either end. -/
def Net.step (env : Env ω) (env' : Env ω') (n : Net ω ω') : NetEvent → Option (Net ω ω')
  | .take false =>
    match n.toClient, n.client.statem.state with
    | m :: rest, .reading =>
      (Iso21177.step env n.client (.read m)).map (fun c =>
        { n with client := c, toClient := rest })
    | _, _ => some n
  | .take true =>
    match n.toServer, n.server.statem.state with
    | m :: rest, .reading =>
      (Iso21177.step env' n.server (.read m)).map (fun s =>
        { n with server := s, toServer := rest })
    | _, _ => some n
  | .own false ev =>
    if ev.ownStep then
      (Iso21177.step env n.client ev).map (fun c =>
        { n with client := c, toServer := n.toServer ++ spoken n.client c })
    else some n
  | .own true ev =>
    if ev.ownStep then
      (Iso21177.step env' n.server ev).map (fun s =>
        { n with server := s, toClient := n.toClient ++ spoken n.server s })
    else some n

theorem said_own (b : Bool) (ms : List Msg) :
    said Prod.fst b (ms.map (fun m => (b, m))) = ms.map (fun m => (b, m)) := by
  rw [said, List.filter_eq_self]
  intro l hl
  rcases List.mem_map.mp hl with ⟨m, -, rfl⟩
  exact decide_eq_true rfl

theorem said_other {b d : Bool} (h : b ≠ d) (ms : List Msg) :
    said Prod.fst d (ms.map (fun m => (b, m))) = [] := by
  rw [said, List.filter_eq_nil_iff]
  intro l hl
  rcases List.mem_map.mp hl with ⟨m, -, rfl⟩
  rw [decide_eq_true_eq]
  exact h

/-- An end begins no handshake by itself. -/
theorem settled_ownStep (s : SSL ω) {ev : Event} (hev : ev.ownStep = true) :
    (∀ server, ev ≠ .start server) ∧ s.startsSettled ev = true := by
  have hne : ∀ server, ev ≠ .start server := by
    rintro server rfl
    exact Bool.false_ne_true hev
  refine ⟨hne, ?_⟩
  cases ev with
  | start server => exact absurd rfl (hne server)
  | _ => rfl

section Steps

variable {env : Env ω}

/-- What an end does by itself adds lines of its own. -/
theorem dialogue_ownStep {s t : SSL ω} {ev : Event} (hev : ev.ownStep = true)
    (h : step env s ev = some t) (hgo : t.statem.state.going = true) :
    s.statem.state.going = true ∧ t.server = s.server ∧
      t.dialogue = s.dialogue ++ (spoken s t).map (fun m => (s.server, m)) := by
  have hsv : t.server = s.server :=
    server_step env h (settled_ownStep s hev).1
  have hkeep : ∀ ms : List Msg, t.dialogue = s.dialogue ++ ms.map (fun m => (s.server, m)) →
      t.dialogue = s.dialogue ++ (spoken s t).map (fun m => (s.server, m)) := by
    intro ms hms
    have hspoken : spoken s t = ms := by
      rw [spoken, hms, List.drop_left, List.map_map]
      exact List.map_id ms
    rw [hspoken]
    exact hms
  have hsame : t.dialogue = s.dialogue →
      t.dialogue = s.dialogue ++ (spoken s t).map (fun m => (s.server, m)) :=
    fun heq => hkeep [] (by rw [heq, List.map_nil, List.append_nil])
  rcases step_cases env h with rfl | ⟨server, rfl, -, -⟩ | ⟨rfl, hflow, rfl⟩ |
    ⟨m, rfl, -, -⟩ | ⟨rfl, hflow, hw⟩ | ⟨rfl, -⟩ | ⟨c, rfl, -, -, b, hc⟩
  · exact ⟨hgo, rfl, hsame rfl⟩
  · exact absurd hev Bool.false_ne_true
  · exact ⟨by rw [hflow]; rfl, hsv, hsame rfl⟩
  · exact absurd hev Bool.false_ne_true
  · -- Of what writing does, only a message that is no ChangeCipherSpec is a line.
    refine ⟨by rw [hflow]; rfl, hsv, ?_⟩
    rcases writeEvent_cases env hw with rfl | ⟨-, rfl⟩ | ⟨st, -, hws⟩
    · rw [(fatal_sslFatal _ _ s).2] at hgo
      exact absurd hgo Bool.false_ne_true
    · exact hsame rfl
    · rcases writeStep_cases env hws with ⟨-, b, v, hfin, rfl⟩ | ⟨-, b, v, hp, rfl⟩ |
        ⟨u, -, rfl⟩ | ⟨-, m, src, u, b, v, hc, hp, rfl⟩
      · cases b with
        | false => exact absurd ((going_checkFatal v).symm.trans hgo) Bool.false_ne_true
        | true =>
            have hk := keeps_finishHandshake env hfin
            exact hsame (dialogue_congr (s := entering s st) (hk.server (by decide))
              (hk.trace (by decide)))
      · cases b with
        | false => exact absurd ((going_checkFatal v).symm.trans hgo) Bool.false_ne_true
        | true =>
            have ht := touches_runOther _ _ true v hp
            exact hsame (dialogue_grows (s := entering s st) (ht.server (by decide)) ht.grows)
      · exact absurd ((going_checkFatal u).symm.trans hgo) Bool.false_ne_true
      · cases b with
        | false => exact absurd ((going_checkFatal v).symm.trans hgo) Bool.false_ne_true
        | true =>
            have hline := dialogue_written hc hp
            by_cases hm : m.mt = .changeCipherSpec
            · rw [if_pos hm, List.append_nil] at hline
              exact hsame hline
            · rw [if_neg hm] at hline
              exact hkeep [m] hline
  · exact absurd hev Bool.false_ne_true
  · rcases touches_configCall env c s b t hc with ⟨hu, hflow⟩
    rw [hflow] at hgo
    exact ⟨hgo, hsv, hsame (dialogue_grows hsv hu.grows)⟩

/-- Taking a message adds it to the record. -/
theorem dialogue_taken {m : Msg} {s t : SSL ω} (hflow : s.statem.state = .reading)
    (h : step env s (.read m) = some t) (hgo : t.statem.state.going = true) :
    t.server = s.server ∧ t.dialogue = s.dialogue ++ [(!s.server, m)] := by
  have hr : readEvent env m s = some t := by
    simpa only [step, hflow] using h
  rcases readEvent_going hr hgo with ⟨st, u, v, -, hph, hp, rfl⟩
  exact ⟨server_step env h (fun _ => Event.noConfusion),
    dialogue_read (phaRequested_cases env hph).1 hp⟩

end Steps

/-- What an end has yet to hear is on its way, and both ends speak the dialogue. -/
structure Carried (n : Net ω ω') : Prop where
  client : Speaks n.client
  server : Speaks n.server
  clientSide : n.client.server = false
  serverSide : n.server.server = true
  toServer : n.client.statem.state.going = true → n.server.statem.state.going = true →
    said Prod.fst false n.client.dialogue =
      said Prod.fst false n.server.dialogue ++ n.toServer.map (fun m => (false, m))
  toClient : n.client.statem.state.going = true → n.server.statem.state.going = true →
    said Prod.fst true n.server.dialogue =
      said Prod.fst true n.client.dialogue ++ n.toClient.map (fun m => (true, m))

section Network

variable {env : Env ω} {env' : Env ω'}

/-- A message that is taken moves from the way to a record, and one that is written from its
    writer to the way. -/
theorem carried_step (henv : OnlyTls13 env) (henv' : OnlyTls13 env') (hopen : StaysOpen env)
    (hopen' : StaysOpen env') {n n' : Net ω ω'} {e : NetEvent} (hn : Carried n)
    (h : n.step env env' e = some n') : Carried n' := by
  have hsplit : ∀ (b : Bool) (v w : List Line), said Prod.fst b (v ++ w) =
      said Prod.fst b v ++ said Prod.fst b w := fun b v w => List.filter_append _ _
  have hself : ∀ (b : Bool) (m : Msg), said Prod.fst b [(b, m)] = [(b, m)] :=
    fun b m => said_own b [m]
  have hcross : ∀ {b d : Bool}, b ≠ d → ∀ m : Msg, said Prod.fst d [(b, m)] = [] :=
    fun hne m => said_other hne [m]
  unfold Net.step at h
  split at h
  · -- The client takes a message.
    split at h
    · rename_i m rest hway hflow
      rcases Option.map_eq_some_iff.mp h with ⟨c, hc, rfl⟩
      have hgone : n.client.statem.state.going = true := by
        rw [hflow]
        rfl
      refine ⟨speaks_step henv hopen rfl hn.client hc, hn.server,
        (server_step env hc (fun _ => Event.noConfusion)).trans hn.clientSide, hn.serverSide,
        fun hgo hgo' => ?_, fun hgo hgo' => ?_⟩
      · have hline := (dialogue_taken hflow hc hgo).2
        rw [hn.clientSide, Bool.not_false] at hline
        rw [hline, hsplit, hcross (Bool.noConfusion : true ≠ false) m, List.append_nil]
        exact hn.toServer hgone hgo'
      · have hline := (dialogue_taken hflow hc hgo).2
        rw [hn.clientSide, Bool.not_false] at hline
        rw [hline, hsplit, hself, hn.toClient hgone hgo', hway, List.append_assoc]
        rfl
    · rw [← Option.some.inj h]
      exact hn
  · -- The server takes one.
    split at h
    · rename_i m rest hway hflow
      rcases Option.map_eq_some_iff.mp h with ⟨s, hs, rfl⟩
      have hgone : n.server.statem.state.going = true := by
        rw [hflow]
        rfl
      refine ⟨hn.client, speaks_step henv' hopen' rfl hn.server hs, hn.clientSide,
        (server_step env' hs (fun _ => Event.noConfusion)).trans hn.serverSide,
        fun hgo hgo' => ?_, fun hgo hgo' => ?_⟩
      · have hline := (dialogue_taken hflow hs hgo').2
        rw [hn.serverSide, Bool.not_true] at hline
        rw [hline, hsplit, hself, hn.toServer hgo hgone, hway, List.append_assoc]
        rfl
      · have hline := (dialogue_taken hflow hs hgo').2
        rw [hn.serverSide, Bool.not_true] at hline
        rw [hline, hsplit, hcross (Bool.noConfusion : false ≠ true) m, List.append_nil]
        exact hn.toClient hgo hgone
    · rw [← Option.some.inj h]
      exact hn
  · -- What the client says goes to the end of its way.
    rename_i ev
    split at h
    · rename_i hev
      rcases Option.map_eq_some_iff.mp h with ⟨c, hc, rfl⟩
      rcases settled_ownStep n.client hev with ⟨hne, hset⟩
      refine ⟨speaks_step henv hopen hset hn.client hc, hn.server,
        (server_step env hc hne).trans hn.clientSide, hn.serverSide, fun hgo hgo' => ?_,
        fun hgo hgo' => ?_⟩
      · rcases dialogue_ownStep hev hc hgo with ⟨hgone, -, hline⟩
        rw [hn.clientSide] at hline
        rw [hline, hsplit, said_own, hn.toServer hgone hgo', List.append_assoc, List.map_append]
      · rcases dialogue_ownStep hev hc hgo with ⟨hgone, -, hline⟩
        rw [hn.clientSide] at hline
        rw [hline, hsplit, said_other Bool.noConfusion, List.append_nil]
        exact hn.toClient hgone hgo'
    · rw [← Option.some.inj h]
      exact hn
  · -- And so does what the server says.
    rename_i ev
    split at h
    · rename_i hev
      rcases Option.map_eq_some_iff.mp h with ⟨s, hs, rfl⟩
      rcases settled_ownStep n.server hev with ⟨hne, hset⟩
      refine ⟨hn.client, speaks_step henv' hopen' hset hn.server hs, hn.clientSide,
        (server_step env' hs hne).trans hn.serverSide, fun hgo hgo' => ?_, fun hgo hgo' => ?_⟩
      · rcases dialogue_ownStep hev hs hgo' with ⟨hgone, -, hline⟩
        rw [hn.serverSide] at hline
        rw [hline, hsplit, said_other Bool.noConfusion, List.append_nil]
        exact hn.toServer hgo hgone
      · rcases dialogue_ownStep hev hs hgo' with ⟨hgone, -, hline⟩
        rw [hn.serverSide] at hline
        rw [hline, hsplit, said_own, hn.toClient hgo hgone, List.append_assoc, List.map_append]
    · rw [← Option.some.inj h]
      exact hn

end Network

/-- Both records begin with the same whole handshake. -/
def HaveMet (v w : List Line) : Prop :=
  ∃ u q, u <+: v ∧ u <+: w ∧ run Stage.next .start u = some q ∧
    (q = .connected ∨ q = .laterRequest)

/-- A client and a server that begin a connection, and then any interleaving of what they do and
    of the messages between them. As long as neither has failed, what one has on record is a
    beginning of what the other has, up to a whole handshake; and once nothing is on its way and
    both wait, they have been through one. -/
theorem network_agrees (env : Env ω) (env' : Env ω') (henv : OnlyTls13 env)
    (henv' : OnlyTls13 env') (hopen : StaysOpen env) (hopen' : StaysOpen env')
    (mem mem' : SspBuffer) (mode mode' : BitVec 32) (cert cert' : Cert) (o : ω) (o' : ω')
    {es es' : List Event} {c : SSL ω} {s : SSL ω'}
    (hset : Along (step env) (fun c ev => c.startsSettled ev = true)
      (sslNew mem mode cert o) es)
    (hset' : Along (step env') (fun s ev => s.startsSettled ev = true)
      (sslNew mem' mode' cert' o') es')
    (hc : run (step env) (sslNew mem mode cert o) es = some c)
    (hs : run (step env') (sslNew mem' mode' cert' o') es' = some s)
    (hclient : c.server = false) (hserver : s.server = true)
    (hnew : c.dialogue = []) (hnew' : s.dialogue = [])
    {ns : List NetEvent} {n : Net ω ω'}
    (h : run (Net.step env env') ⟨c, s, [], []⟩ ns = some n)
    (hgo : n.client.statem.state.going = true) (hgo' : n.server.statem.state.going = true) :
    ((n.client.dialogue <+: n.server.dialogue ∨ n.server.dialogue <+: n.client.dialogue) ∨
      HaveMet n.client.dialogue n.server.dialogue) ∧
    (n.toServer = [] → n.toClient = [] → n.client.statem.state = .reading →
      n.server.statem.state = .reading → HaveMet n.client.dialogue n.server.dialogue) := by
  have hstart : Carried (⟨c, s, [], []⟩ : Net ω ω') :=
    ⟨speaks_run henv hopen hset hc, speaks_run henv' hopen' hset' hs, hclient, hserver,
      fun _ _ => by rw [hnew, hnew']; rfl, fun _ _ => by rw [hnew, hnew']; rfl⟩
  have hn : Carried n := run_invariant (Net.step env env') Carried
    (fun _ _ _ hm hstep => carried_step henv henv' hopen hopen' hm hstep) ns _ n hstart h
  have hsrv := hn.toServer hgo hgo'
  have hcl := hn.toClient hgo hgo'
  rcases hn.client hgo with ⟨p, -, hp, hwait⟩
  rcases hn.server hgo' with ⟨r, -, hr, hwait'⟩
  constructor
  · -- What is on its way makes the difference between the two records.
    exact dialogues_agree hp hr ⟨_, hcl.symm⟩ ⟨_, hsrv.symm⟩
  · intro hnone hnone' hread hread'
    rw [hnone, List.map_nil, List.append_nil] at hsrv
    rw [hnone', List.map_nil, List.append_nil] at hcl
    have hturn := hwait hread
    have hturn' := hwait' hread'
    rw [hn.clientSide] at hturn
    rw [hn.serverSide] at hturn'
    have hsaid : ∀ b, said Prod.fst b n.client.dialogue = said Prod.fst b n.server.dialogue := by
      intro b
      cases b with
      | true => exact hcl.symm
      | false => exact hsrv
    exact dialogues_meet hp hr hsaid hturn hturn'

/-- One way in which a handshake may go. -/
def wholeConnection : List NetEvent :=
  [.own false .write, .own true .write, .own false .write, .take true] ++
    List.replicate 8 (.own true .write) ++ List.replicate 5 (.take false) ++
    [.own false .write, .own false .write, .take true, .own true .write, .own true .reenter,
      .own false .reenter, .own false .write, .own true .write]

/-- Both ends wait for more after it. -/
theorem network_agrees_served :
    ∃ c s n, run (step plainEnv) newClient (servedClient.take 1) = some c ∧
      run (step plainEnv) newClient (servingServer.take 3) = some s ∧
      run (Net.step plainEnv plainEnv) ⟨c, s, [], []⟩ wholeConnection = some n ∧
      n.toServer = [] ∧ n.toClient = [] ∧ n.client.statem.state = .reading ∧
      n.server.statem.state = .reading ∧ HaveMet n.client.dialogue n.server.dialogue := by
  have hset := along_of_check (step plainEnv) SSL.startsSettled (servedClient.take 1) newClient
    (by decide +kernel)
  have hset' := along_of_check (step plainEnv) SSL.startsSettled (servingServer.take 3) newClient
    (by decide +kernel)
  have htest : (run (step plainEnv) newClient (servedClient.take 1)).any (fun c =>
      (run (step plainEnv) newClient (servingServer.take 3)).any (fun s =>
        (run (Net.step plainEnv plainEnv) ⟨c, s, [], []⟩ wholeConnection).any (fun n =>
          !c.server && s.server && c.dialogue = [] && s.dialogue = [] && n.toServer = [] &&
            n.toClient = [] && n.client.statem.state = .reading &&
            n.server.statem.state = .reading))) = true := by decide +kernel
  rcases (Option.any_eq_true _ _).mp htest with ⟨c, hc, htest⟩
  rcases (Option.any_eq_true _ _).mp htest with ⟨s, hs, htest⟩
  rcases (Option.any_eq_true _ _).mp htest with ⟨n, hn, hp⟩
  simp only [Bool.and_eq_true, Bool.not_eq_true', decide_eq_true_eq] at hp
  rcases hp with
    ⟨⟨⟨⟨⟨⟨⟨hclient, hserver⟩, hnew⟩, hnew'⟩, hnone⟩, hnone'⟩, hread⟩, hread'⟩
  exact ⟨c, s, n, hc, hs, hn, hnone, hnone', hread, hread',
    (network_agrees plainEnv plainEnv onlyTls13_plainEnv onlyTls13_plainEnv staysOpen_plainEnv
      staysOpen_plainEnv SspBuffer.zero SspBuffer.zero 0 0 Cert.empty Cert.empty () () hset hset'
      hc hs hclient hserver hnew hnew' hn (by rw [hread]; rfl) (by rw [hread']; rfl)).2
      hnone hnone' hread hread'⟩

end Iso21177
