import Mathlib

/-!
# Opening a session by request and answer

Two sides open a session by a request that the other side accepts.  The side that
accepts has its session at once, the other one when the acceptance arrives.  If a
side asks only while nothing is on its way and it has no session, the two sides
never have sessions that do not belong together.
-/

namespace ProntoChat.OfferAnswer

variable {Side Id Role : Type*}

inductive Offer (Id : Type*) where
  | request
  | accept (id : Id)

/-- The sessions of the two sides, and the offers of each that are on their way,
oldest first. -/
structure Opening (Side Id Role : Type*) where
  session : Side → Option (Id × Role)
  offers : Side → List (Offer Id)

namespace Opening

/-- Nothing is on its way. -/
def Quiet (opening : Opening Side Id Role) : Prop := ∀ side, opening.offers side = []

variable [DecidableEq Side]

def setSession (opening : Opening Side Id Role) (side : Side)
    (session : Option (Id × Role)) : Opening Side Id Role :=
  { opening with session := Function.update opening.session side session }

def setOffers (opening : Opening Side Id Role) (side : Side)
    (offers : List (Offer Id)) : Opening Side Id Role :=
  { opening with offers := Function.update opening.offers side offers }

@[simp]
theorem offers_setOffers (opening : Opening Side Id Role) (side : Side)
    (offers : List (Offer Id)) : (opening.setOffers side offers).offers side = offers :=
  Function.update_self ..

theorem offers_setOffers_ne {opening : Opening Side Id Role} {side other : Side}
    (hne : other ≠ side) (offers : List (Offer Id)) :
    (opening.setOffers side offers).offers other = opening.offers other :=
  Function.update_of_ne hne ..

@[simp]
theorem session_setSession (opening : Opening Side Id Role) (side : Side)
    (session : Option (Id × Role)) :
    (opening.setSession side session).session side = session :=
  Function.update_self ..

theorem session_setSession_ne {opening : Opening Side Id Role} {side other : Side}
    (hne : other ≠ side) (session : Option (Id × Role)) :
    (opening.setSession side session).session other = opening.session other :=
  Function.update_of_ne hne ..

@[simp]
theorem offers_setSession (opening : Opening Side Id Role) (side : Side)
    (session : Option (Id × Role)) :
    (opening.setSession side session).offers = opening.offers := rfl

@[simp]
theorem session_setOffers (opening : Opening Side Id Role) (side : Side)
    (offers : List (Offer Id)) :
    (opening.setOffers side offers).session = opening.session := rfl

theorem setOffers_self (opening : Opening Side Id Role) (side : Side) :
    opening.setOffers side (opening.offers side) = opening := by
  rw [setOffers, Function.update_eq_self]

theorem setSession_self (opening : Opening Side Id Role) (side : Side) :
    opening.setSession side (opening.session side) = opening := by
  rw [setSession, Function.update_eq_self]

theorem setOffers_setSession (opening : Opening Side Id Role) (side other : Side)
    (offers : List (Offer Id)) (session : Option (Id × Role)) :
    (opening.setSession side session).setOffers other offers =
      (opening.setOffers other offers).setSession side session := rfl

theorem setOffers_setOffers (opening : Opening Side Id Role) (side : Side)
    (first second : List (Offer Id)) :
    (opening.setOffers side first).setOffers side second =
      opening.setOffers side second := by
  rw [setOffers, setOffers, setOffers, Function.update_idem]

theorem setSession_setSession (opening : Opening Side Id Role) (side : Side)
    (first second : Option (Id × Role)) :
    (opening.setSession side first).setSession side second =
      opening.setSession side second := by
  rw [setSession, setSession, setSession, Function.update_idem]

end Opening

/-- The steps of an orderly opening, with the roles of the side that asks and of
the side that answers. -/
inductive Step [DecidableEq Side] (asking answering : Role) :
    Opening Side Id Role → Opening Side Id Role → Prop where
  /-- A side loses its session. -/
  | ends {opening : Opening Side Id Role} (side : Side) :
      Step asking answering opening (opening.setSession side none)
  | asks {opening : Opening Side Id Role} {side : Side} (hquiet : opening.Quiet)
      (hnone : opening.session side = none) :
      Step asking answering opening (opening.setOffers side [.request])
  /-- The oldest offer of a side is lost, or the other side ignores it. -/
  | loses {opening : Opening Side Id Role} {side : Side} {offer : Offer Id}
      {rest : List (Offer Id)} (hoffers : opening.offers side = offer :: rest) :
      Step asking answering opening (opening.setOffers side rest)
  | answers {opening : Opening Side Id Role} {side other : Side} {id : Id}
      {rest : List (Offer Id)} (hother : side ≠ other)
      (hoffers : opening.offers other = .request :: rest) :
      Step asking answering opening
        (((opening.setOffers other rest).setOffers side
          (opening.offers side ++ [.accept id])).setSession side (some (id, answering)))
  | begins {opening : Opening Side Id Role} {side other : Side} {id : Id}
      {rest : List (Offer Id)} (hother : side ≠ other)
      (hoffers : opening.offers other = .accept id :: rest) :
      Step asking answering opening
        ((opening.setOffers other rest).setSession side (some (id, asking)))

/-- Two sessions have one identifier and the two roles. -/
def Matching (asking answering : Role) (left right : Id × Role) : Prop :=
  left.1 = right.1 ∧ ((left.2 = asking ∧ right.2 = answering) ∨
    (left.2 = answering ∧ right.2 = asking))

theorem Matching.symm {asking answering : Role} {left right : Id × Role}
    (hmatching : Matching asking answering left right) :
    Matching asking answering right left :=
  ⟨hmatching.1.symm, hmatching.2.symm.imp And.symm And.symm⟩

/-- Whenever both sides have a session, the two belong together. -/
def Agreed (asking answering : Role) (opening : Opening Side Id Role) : Prop :=
  ∀ first second, first ≠ second → ∀ left ∈ opening.session first,
    ∀ right ∈ opening.session second, Matching asking answering left right

/-- How far an opening has come. -/
inductive Phase (asking answering : Role) (opening : Opening Side Id Role) : Prop where
  | idle (hquiet : opening.Quiet) (hagreed : Agreed asking answering opening)
  | requested (side : Side) (hoffers : opening.offers side = [.request])
      (hothers : ∀ other, other ≠ side → opening.offers other = [])
      (hnone : opening.session side = none)
  | accepted (side : Side) (id : Id) (hoffers : opening.offers side = [.accept id])
      (hothers : ∀ other, other ≠ side →
        opening.offers other = [] ∧ opening.session other = none)
      (hsession : ∀ session ∈ opening.session side, session = (id, answering))

section Phases

variable {asking answering : Role} {opening next : Opening Side Id Role}

/-- The only offer on its way is the one of the phase. -/
theorem Phase.only (hphase : Phase asking answering opening) {side : Side}
    {offer : Offer Id} {rest : List (Offer Id)}
    (hoffers : opening.offers side = offer :: rest) :
    rest = [] ∧ ∀ other, other ≠ side → opening.offers other = [] := by
  cases hphase with
  | idle hquiet _ => exact nomatch (hquiet side).symm.trans hoffers
  | requested sender hsent hothers _ =>
      by_cases hsame : side = sender
      · subst hsame
        exact ⟨(List.cons.inj (hsent.symm.trans hoffers)).2.symm, hothers⟩
      · exact nomatch (hothers side hsame).symm.trans hoffers
  | accepted sender _ hsent hothers _ =>
      by_cases hsame : side = sender
      · subst hsame
        exact ⟨(List.cons.inj (hsent.symm.trans hoffers)).2.symm,
          fun other hother => (hothers other hother).1⟩
      · exact nomatch (hothers side hsame).1.symm.trans hoffers

theorem Phase.request_sender (hphase : Phase asking answering opening) {side : Side}
    {rest : List (Offer Id)} (hoffers : opening.offers side = .request :: rest) :
    opening.session side = none := by
  cases hphase with
  | idle hquiet _ => exact nomatch (hquiet side).symm.trans hoffers
  | requested sender _ hothers hnone =>
      by_cases hsame : side = sender
      · subst hsame
        exact hnone
      · exact nomatch (hothers side hsame).symm.trans hoffers
  | accepted sender _ hsent hothers _ =>
      by_cases hsame : side = sender
      · subst hsame
        exact nomatch hsent.symm.trans hoffers
      · exact nomatch (hothers side hsame).1.symm.trans hoffers

/-- Nobody but the sender of an acceptance has a session, and it is the accepted
one. -/
theorem Phase.accept_sender (hphase : Phase asking answering opening) {side : Side}
    {id : Id} {rest : List (Offer Id)}
    (hoffers : opening.offers side = .accept id :: rest) :
    (∀ other, other ≠ side → opening.session other = none) ∧
      ∀ session ∈ opening.session side, session = (id, answering) := by
  cases hphase with
  | idle hquiet _ => exact nomatch (hquiet side).symm.trans hoffers
  | requested sender hsent hothers _ =>
      by_cases hsame : side = sender
      · subst hsame
        exact nomatch hsent.symm.trans hoffers
      · exact nomatch (hothers side hsame).symm.trans hoffers
  | accepted sender _ hsent hothers hsession =>
      by_cases hsame : side = sender
      · subst hsame
        obtain ⟨hid, _⟩ := List.cons.inj (hsent.symm.trans hoffers)
        obtain rfl := Offer.accept.inj hid
        exact ⟨fun other hother => (hothers other hother).2, hsession⟩
      · exact nomatch (hothers side hsame).1.symm.trans hoffers

/-- In every phase the sessions belong together: while an offer is on its way, one
side has none. -/
theorem Phase.agreed (htwo : ∀ first second third : Side, first ≠ second →
      third = first ∨ third = second) (hphase : Phase asking answering opening) :
    Agreed asking answering opening := by
  intro first second hne left hleft right hright
  cases hphase with
  | idle _ hagreed => exact hagreed first second hne left hleft right hright
  | requested side _ _ hnone =>
      rcases htwo first second side hne with rfl | rfl
      · exact nomatch hnone.symm.trans hleft
      · exact nomatch hnone.symm.trans hright
  | accepted side _ _ hothers _ =>
      rcases htwo first second side hne with rfl | rfl
      · exact nomatch (hothers second hne.symm).2.symm.trans hright
      · exact nomatch (hothers first hne).2.symm.trans hleft

variable [DecidableEq Side]

/-- Losing a session keeps the phase. -/
theorem Phase.ends (hphase : Phase asking answering opening) (side : Side) :
    Phase asking answering (opening.setSession side none) := by
  have hsession {other : Side} {session : Id × Role}
      (hmem : session ∈ (opening.setSession side none).session other) :
      session ∈ opening.session other := by
    by_cases hsame : other = side
    · subst hsame
      simp [Opening.setSession] at hmem
    · simpa [Opening.setSession, hsame] using hmem
  have hnone {other : Side} (hfree : opening.session other = none) :
      (opening.setSession side none).session other = none := by
    rw [Option.eq_none_iff_forall_not_mem] at hfree ⊢
    exact fun session hmem => hfree session (hsession hmem)
  cases hphase with
  | idle hquiet hagreed =>
      exact .idle hquiet fun first second hne left hleft right hright =>
        hagreed first second hne left (hsession hleft) right (hsession hright)
  | requested sender hoffers hothers hfree =>
      exact .requested sender hoffers hothers (hnone hfree)
  | accepted sender id hoffers hothers hanswering =>
      exact .accepted sender id hoffers
        (fun other hother => ⟨(hothers other hother).1, hnone (hothers other hother).2⟩)
        fun session hmem => hanswering session (hsession hmem)

theorem quiet_setOffers {side : Side}
    (hothers : ∀ other, other ≠ side → opening.offers other = []) :
    (opening.setOffers side []).Quiet := by
  intro other
  by_cases hsame : other = side
  · rw [hsame, opening.offers_setOffers]
  · rw [Opening.offers_setOffers_ne hsame, hothers other hsame]

/-- Every step keeps the phase. -/
theorem phase_step (htwo : ∀ first second third : Side, first ≠ second →
      third = first ∨ third = second)
    (hstep : Step asking answering opening next)
    (hphase : Phase asking answering opening) : Phase asking answering next := by
  cases hstep with
  | ends side => exact hphase.ends side
  | @asks side hquiet hnone =>
      refine .requested side (opening.offers_setOffers side _) ?_ hnone
      intro other hother
      rw [Opening.offers_setOffers_ne hother, hquiet other]
  | @loses side offer rest hoffers =>
      obtain ⟨rfl, hothers⟩ := hphase.only hoffers
      have hagreed := hphase.agreed htwo
      exact .idle (quiet_setOffers hothers) hagreed
  | @answers side sender id rest hne hoffers =>
      obtain ⟨rfl, hothers⟩ := hphase.only hoffers
      have hnone := hphase.request_sender hoffers
      refine .accepted side id ?_ (fun other hother => ?_) ?_
      · simp [hothers side hne]
      · have hsender : other = sender :=
          (htwo side sender other hne).resolve_left hother
        rw [hsender, Opening.offers_setSession, Opening.offers_setOffers_ne hne.symm,
          Opening.offers_setOffers, Opening.session_setSession_ne hne.symm]
        exact ⟨rfl, hnone⟩
      · simp
  | @begins side sender id rest hne hoffers =>
      obtain ⟨rfl, hothers⟩ := hphase.only hoffers
      obtain ⟨_, hsession⟩ := hphase.accept_sender hoffers
      have hquiet := quiet_setOffers hothers
      refine .idle hquiet fun first second hdistinct left hleft right hright => ?_
      have hpair {session : Id × Role} (hmem : session ∈ opening.session sender) :
          Matching asking answering (id, asking) session := by
        rw [hsession session hmem]
        exact ⟨rfl, Or.inl ⟨rfl, rfl⟩⟩
      by_cases hfirst : first = side
      · have hsecond : second = sender :=
          (htwo side sender second hne).resolve_left (hfirst ▸ hdistinct.symm)
        rw [hfirst, Opening.session_setSession] at hleft
        rw [hsecond, Opening.session_setSession_ne hne.symm] at hright
        obtain rfl := Option.some.inj hleft
        exact hpair hright
      · have hfirst' : first = sender := (htwo side sender first hne).resolve_left hfirst
        have hsecond : second = side :=
          (htwo side sender second hne).resolve_right fun hsame =>
            hdistinct (hfirst'.trans hsame.symm)
        rw [hfirst', Opening.session_setSession_ne hne.symm] at hleft
        rw [hsecond, Opening.session_setSession] at hright
        obtain rfl := Option.some.inj hright
        exact (hpair hleft).symm

end Phases

/-! ## Sequences of steps -/

section Sequences

variable [DecidableEq Side] {asking answering : Role}
  {opening next : Opening Side Id Role} {side other : Side}

def Steps (asking answering : Role) :
    Opening Side Id Role → Opening Side Id Role → Prop :=
  Relation.ReflTransGen (Step asking answering)

theorem phase_steps (htwo : ∀ first second third : Side, first ≠ second →
      third = first ∨ third = second)
    (hsteps : Steps asking answering opening next)
    (hphase : Phase asking answering opening) : Phase asking answering next := by
  induction hsteps with
  | refl => exact hphase
  | tail _ hstep ih => exact phase_step htwo hstep ih

/-- A side keeps its session or loses it. -/
theorem steps_kept {session : Option (Id × Role)}
    (hsession : session = opening.session side ∨ session = none) :
    Steps asking answering opening (opening.setSession side session) := by
  rcases hsession with rfl | rfl
  · rw [opening.setSession_self side]
    exact .refl
  · exact .single (.ends side)

/-- A side gives up its session and asks for another one. -/
theorem steps_asked (hquiet : opening.Quiet) :
    Steps asking answering opening
      ((opening.setOffers side [.request]).setSession side none) := by
  have hasks : Step asking answering (opening.setSession side none)
      ((opening.setSession side none).setOffers side [.request]) :=
    .asks hquiet (opening.session_setSession side none)
  exact .head (.ends side) (.single hasks)

/-- A request arrives and is answered.  The answer may be lost, and the session may
have ended again. -/
theorem steps_answered (hphase : Phase asking answering opening) (hne : side ≠ other)
    {rest offers : List (Offer Id)} (hrequest : opening.offers other = .request :: rest)
    {id : Id} (hoffers : offers = opening.offers side ∨
      offers = opening.offers side ++ [.accept id])
    {session : Option (Id × Role)}
    (hsession : session = none ∨ session = some (id, answering)) :
    Steps asking answering opening
      (((opening.setOffers other rest).setOffers side offers).setSession side
        session) := by
  have hempty : opening.offers side = [] := (hphase.only hrequest).2 side hne
  rw [hempty, List.nil_append] at hoffers
  have hanswers : Step asking answering opening
      (((opening.setOffers other rest).setOffers side [.accept id]).setSession side
        (some (id, answering))) := by
    have hstep : Step asking answering opening
        (((opening.setOffers other rest).setOffers side
          (opening.offers side ++ [.accept id])).setSession side
            (some (id, answering))) := .answers hne hrequest
    rwa [hempty] at hstep
  have hended : Steps asking answering opening
      (((opening.setOffers other rest).setOffers side [.accept id]).setSession side
        session) := by
    refine .head hanswers ?_
    rw [← Opening.setSession_setSession _ side (some (id, answering)) session]
    refine steps_kept ?_
    rw [Opening.session_setSession]
    exact hsession.symm
  rcases hoffers with rfl | rfl
  · refine hended.tail ?_
    have hanswer : ((((opening.setOffers other rest).setOffers side
        [.accept id]).setSession side session)).offers side = [.accept id] := by
      simp
    have hloses : Step asking answering _ _ := .loses hanswer
    rwa [Opening.setOffers_setSession, Opening.setOffers_setOffers] at hloses
  · exact hended

/-- An acceptance arrives: the session begins, or it failed at once and is asked for
again. -/
theorem steps_accepted (hphase : Phase asking answering opening) (hne : side ≠ other)
    {rest offers : List (Offer Id)} {id : Id}
    (haccept : opening.offers other = .accept id :: rest)
    {session : Option (Id × Role)}
    (hnext : (offers = opening.offers side ∧ session = some (id, asking)) ∨
      (session = none ∧ offers = opening.offers side ++ [.request])) :
    Steps asking answering opening
      (((opening.setOffers other rest).setOffers side offers).setSession side
        session) := by
  obtain ⟨hrest, hothers⟩ := hphase.only haccept
  rcases hnext with ⟨rfl, rfl⟩ | ⟨rfl, rfl⟩
  · have hsame : (opening.setOffers other rest).offers side = opening.offers side :=
      Opening.offers_setOffers_ne hne rest
    rw [← hsame, Opening.setOffers_self]
    exact .single (.begins hne haccept)
  · rw [hothers side hne, hrest]
    refine .head (.loses (hrest ▸ haccept)) (steps_asked (quiet_setOffers hothers))

end Sequences

end ProntoChat.OfferAnswer
