import Iso21177.Ssl.Dialogue

/-!
# The Scripts of a Handshake

The dialogue written out. Up to the end of the first handshake it has no loop, so what was said
by each stage is one of a few sequences of messages (`Stage.paths`), and a whole handshake is
one of eight (`scripts`): the hellos, without a retry or with one; then the server's flight,
with a request for a certificate or without, or the short one of a resumed session; then the
client's flight, which shows a certificate if one was asked for and signs with it unless there
is none to show.

Without resumed sessions there are six of them, and in each the server's CertificateVerify
follows its Certificate and comes before either Finished.

## Main definitions

* `Line.kind`: The speaker and the type of a line.
* `hellos`, `serverFlights`, `clientFlights`, `andThen`, `scripts`: The scripts of a handshake.
* `Stage.paths`: What was said by a stage.
* `Resumes`, `Unresumed`: Resuming a session.

## Theorems

* `scripts_subset`: Without resumed sessions there are fewer.
* `paths_next`: One line.
* `unresumed_concat`: One more line that resumes none.
* `path_of_run`, `script_of_run`: What was said follows a script.
-/

namespace Iso21177

/-- The speaker of a line and the type of its message. -/
def Line.kind (l : Line) : Bool × MsgType := (l.1, l.2.mt)

/-- The hellos, without a retry and with one. -/
def hellos : List (List (Bool × MsgType)) :=
  [[(false, .clientHello), (true, .serverHello)],
    [(false, .clientHello), (true, .serverHello), (false, .clientHello), (true, .serverHello)]]

/-- What the server says after its hello, up to its Finished. -/
def serverFlights (resumed asked : Bool) : List (List (Bool × MsgType)) :=
  if asked then
    [[(true, .encryptedExtensions), (true, .certificateRequest), (true, .certificate),
      (true, .certificateVerify), (true, .finished)]]
  else
    [(true, .encryptedExtensions), (true, .certificate), (true, .certificateVerify),
      (true, .finished)] ::
    if resumed then [[(true, .encryptedExtensions), (true, .finished)]] else []

/-- What the client says after that. -/
def clientFlights (asked : Bool) : List (List (Bool × MsgType)) :=
  if asked then
    [[(false, .certificate), (false, .finished)],
      [(false, .certificate), (false, .certificateVerify), (false, .finished)]]
  else [[(false, .finished)]]

/-- One of these and then one of those. -/
def andThen (xs ys : List (List (Bool × MsgType))) : List (List (Bool × MsgType)) :=
  xs.flatMap (fun x => ys.map (fun y => x ++ y))

/-- The scripts of a whole handshake, with resumed sessions or without. -/
def scripts (resumed : Bool) : List (List (Bool × MsgType)) :=
  [false, true].flatMap (fun asked =>
    andThen (andThen hellos (serverFlights resumed asked)) (clientFlights asked))

theorem scripts_subset : scripts false ⊆ scripts true := by decide

/-- What was said by each stage of a first handshake. -/
def Stage.paths (resumed : Bool) : Stage → List (List (Bool × MsgType))
  | .start => [[]]
  | .hello false => [[(false, .clientHello)]]
  | .retry => [[(false, .clientHello), (true, .serverHello)]]
  | .hello true => [[(false, .clientHello), (true, .serverHello), (false, .clientHello)]]
  | .answer => hellos
  | .extensions => andThen hellos [[(true, .encryptedExtensions)]]
  | .request => andThen hellos [[(true, .encryptedExtensions), (true, .certificateRequest)]]
  | .serverCert false => andThen hellos [[(true, .encryptedExtensions), (true, .certificate)]]
  | .serverCert true => andThen hellos [[(true, .encryptedExtensions), (true, .certificateRequest),
      (true, .certificate)]]
  | .serverVerify false => andThen hellos [[(true, .encryptedExtensions), (true, .certificate),
      (true, .certificateVerify)]]
  | .serverVerify true => andThen hellos [[(true, .encryptedExtensions),
      (true, .certificateRequest), (true, .certificate), (true, .certificateVerify)]]
  | .serverFinished asked => andThen hellos (serverFlights resumed asked)
  | .clientCert => andThen (andThen hellos (serverFlights resumed true)) [[(false, .certificate)]]
  | .clientVerify => andThen (andThen hellos (serverFlights resumed true))
      [[(false, .certificate), (false, .certificateVerify)]]
  | .connected => scripts resumed
  | .laterRequest => []

/-- A session is resumed: the server's Finished follows its EncryptedExtensions. -/
def Resumes (q : Stage) (l : Line) : Prop := q = .extensions ∧ l.2.mt = .finished

/-- A line leads from what was said by one stage to what was said by the next. -/
theorem paths_next {resumed : Bool} {q q' : Stage} {l : Line} {x : List (Bool × MsgType)}
    (hnext : Stage.next q l = some q') (hq : q ≠ .connected)
    (hres : resumed = true ∨ ¬ Resumes q l) (hx : x ∈ q.paths resumed) :
    x ++ [l.kind] ∈ q'.paths resumed := by
  have hkind : ∀ {b : Bool} {mt : MsgType}, l.1 = b → l.2.mt = mt → l.kind = (b, mt) := by
    rintro b mt rfl rfl
    rfl
  unfold Stage.next at hnext
  split at hnext
  case h_2 =>
    rename_i again hb hm
    rw [hkind hb hm]
    split at hnext
    · -- Nobody is sent back twice.
      split at hnext
      · exact absurd hnext (by simp only [reduceCtorEq, not_false_eq_true])
      · rename_i hagain
        rw [Bool.not_eq_true] at hagain
        obtain rfl := Option.some.inj hnext
        subst hagain
        revert x
        cases resumed <;> decide
    · obtain rfl := Option.some.inj hnext
      revert x
      cases resumed <;> cases again <;> decide
  case h_7 =>
    -- Behind EncryptedExtensions a Finished resumes a session.
    rename_i hb hm
    rw [hkind hb hm]
    obtain rfl := Option.some.inj hnext
    obtain rfl := hres.resolve_right (not_not.mpr ⟨rfl, hm⟩)
    revert x
    decide
  all_goals first
    | exact absurd rfl hq
    | exact absurd hnext (by simp only [reduceCtorEq, not_false_eq_true])
    | (rename_i hb hm
       rw [hkind hb hm]
       obtain rfl := Option.some.inj hnext
       revert x
       cases resumed <;> decide)
    | (rename_i asked hb hm
       rw [hkind hb hm]
       obtain rfl := Option.some.inj hnext
       revert x
       cases resumed <;> cases asked <;> decide)
    | (rename_i hm
       exact absurd hx List.not_mem_nil)

/-- No session is resumed in these lines. -/
def Unresumed (w : List Line) : Prop :=
  ∀ u l v q, w = u ++ l :: v → run Stage.next .start u = some q → ¬ Resumes q l

/-- One more line that resumes none. -/
theorem unresumed_concat {w : List Line} {l : Line} {q : Stage} (hw : Unresumed w)
    (hq : run Stage.next .start w = some q) (hl : ¬ Resumes q l) : Unresumed (w ++ [l]) := by
  intro u l' v p heq hp
  -- The line in question is the new one or one of those before.
  rcases List.eq_nil_or_concat v with rfl | ⟨v', x, rfl⟩
  · rcases List.append_inj' heq rfl with ⟨rfl, hlast⟩
    rw [← (List.cons.inj hlast).1, ← Option.some.inj (hq.symm.trans hp)]
    exact hl
  · rw [List.concat_eq_append, ← List.cons_append, ← List.append_assoc] at heq
    exact hw u l' v' p (List.append_inj' heq rfl).1 hp

/-- What was said follows a script up to the end of the first handshake. -/
theorem path_of_run {resumed : Bool} {w : List Line} {q : Stage}
    (h : run Stage.next .start w = some q) (hres : resumed = true ∨ Unresumed w) :
    ∃ u v p, w = u ++ v ∧ run Stage.next .start u = some p ∧ u.map Line.kind ∈ p.paths resumed ∧
      (p = .connected ∨ v = [] ∧ p = q) := by
  induction w using List.reverseRecOn generalizing q with
  | nil =>
      refine ⟨[], [], .start, rfl, rfl, List.mem_singleton.mpr rfl, Or.inr ⟨rfl, ?_⟩⟩
      rw [run, Option.some.injEq] at h
      exact h
  | append_singleton w l ih =>
      rcases run_split Stage.next h with ⟨p, hw, hl⟩
      have hnext : Stage.next p l = some q := by
        rw [run] at hl
        split at hl
        · exact absurd hl (by simp only [reduceCtorEq, not_false_eq_true])
        · rename_i hp
          rw [hp, ← hl]
          rfl
      have hres' : resumed = true ∨ Unresumed w :=
        hres.imp_right (fun hu u l' v p' hw => hu u l' (v ++ [l]) p' (by rw [hw, List.append_assoc,
          List.cons_append]))
      rcases ih hw hres' with ⟨u, v, r, rfl, hu, hpath, hr⟩
      -- What follows the end of the first handshake is in no script.
      by_cases hc : r = .connected
      · exact ⟨u, v ++ [l], r, List.append_assoc u v [l], hu, hpath, Or.inl hc⟩
      · rcases hr.resolve_left hc with ⟨rfl, rfl⟩
        rw [List.append_nil] at hres ⊢
        refine ⟨u ++ [l], [], q, (List.append_nil _).symm, ?_, ?_, Or.inr ⟨rfl, rfl⟩⟩
        · exact (run_concat Stage.next l hu).mpr hnext
        · rw [List.map_append]
          exact paths_next hnext hc (hres.imp_right (fun hn => hn u l [] r rfl hu)) hpath

/-- A handshake that has come to its end began with one that follows a script. -/
theorem script_of_run {resumed : Bool} {w : List Line} {q : Stage}
    (h : run Stage.next .start w = some q) (hres : resumed = true ∨ Unresumed w)
    (hq : q = .connected ∨ q = .laterRequest) :
    ∃ u v, w = u ++ v ∧ run Stage.next .start u = some .connected ∧
      u.map Line.kind ∈ scripts resumed := by
  rcases path_of_run h hres with ⟨u, v, p, hw, hu, hpath, rfl | ⟨-, rfl⟩⟩
  · exact ⟨u, v, hw, hu, hpath⟩
  · rcases hq with rfl | rfl
    · exact ⟨u, v, hw, hu, hpath⟩
    · exact absurd hpath List.not_mem_nil

end Iso21177
