import Mathlib.Data.List.Infix

/-!
# Ordered streams

A sender advances its state with every item it pushes, and a receiver with
every ciphertext it accepts.  In an ideal stream a receiver that is `n` items
behind the start accepts only the `n`-th push.  Whatever the network does, it
then reads a prefix of what was pushed.
-/

namespace ProntoChat.OrderedStream

variable {State Cipher Item : Type*}

/-- The state behind a sequence of pushes. -/
def pushed (push : State → Item → Cipher × State) (start : State)
    (items : List Item) : State :=
  items.foldl (fun state item => (push state item).2) start

@[simp]
theorem pushed_concat (push : State → Item → Cipher × State) (start : State)
    (items : List Item) (item : Item) :
    pushed push start (items ++ [item]) =
      (push (pushed push start items) item).2 :=
  List.foldl_concat _ _ _ _

/-- The ciphertexts of a sequence of pushes. -/
def ciphers (push : State → Item → Cipher × State) : State → List Item → List Cipher
  | _, [] => []
  | state, item :: items =>
      (push state item).1 :: ciphers push (push state item).2 items

theorem ciphers_concat (push : State → Item → Cipher × State) (start : State)
    (items : List Item) (item : Item) :
    ciphers push start (items ++ [item]) =
      ciphers push start items ++ [(push (pushed push start items) item).1] := by
  induction items generalizing start with
  | nil => rfl
  | cons first items ih =>
      simp only [List.cons_append, ciphers, ih]
      rfl

/-- A receiver accepted some items one after the other. -/
inductive Pulled (pull : State → Cipher → Option (Item × State))
    (start : State) : List Item → State → Prop
  | nil : Pulled pull start [] start
  | snoc {items : List Item} {item : Item} {cipher : Cipher}
      {state next : State} (hitems : Pulled pull start items state)
      (hpull : pull state cipher = some (item, next)) :
      Pulled pull start (items ++ [item]) next

theorem Pulled.eq_nil {pull : State → Cipher → Option (Item × State)}
    {start final : State} {items : List Item}
    (hpulled : Pulled pull start items final)
    (hclosed : ∀ cipher, pull start cipher = none) :
    items = [] ∧ final = start := by
  induction hpulled with
  | nil => exact ⟨rfl, rfl⟩
  | snoc _ hpull ih =>
      rw [ih.2, hclosed] at hpull
      exact nomatch hpull

/-- Behind each beginning of the pushed items, nothing is accepted but the
next push; behind all of them, nothing is. -/
structure Ideal (push : State → Item → Cipher × State)
    (pull : State → Cipher → Option (Item × State)) (start : State)
    (items : List Item) : Prop where
  next : ∀ sent item rest, items = sent ++ item :: rest →
    ∀ cipher got state,
      pull (pushed push start sent) cipher = some (got, state) →
      got = item ∧
        (cipher, state) = push (pushed push start sent) item
  last : ∀ cipher, pull (pushed push start items) cipher = none

/-- Before each of the pushed items its push and nothing else is accepted;
behind all of them, nothing is. -/
def Exact (push : State → Item → Cipher × State)
    (pull : State → Cipher → Option (Item × State)) : State → List Item → Prop
  | start, [] => ∀ cipher, pull start cipher = none
  | start, item :: items =>
      (∀ cipher got state, pull start cipher = some (got, state) ↔
        got = item ∧ (cipher, state) = push start item) ∧
        Exact push pull (push start item).2 items

variable {push : State → Item → Cipher × State}
  {pull : State → Cipher → Option (Item × State)} {start final : State}
  {items got : List Item}

/-- The receiver of an ideal stream is always behind a beginning of the pushed
items. -/
theorem Ideal.pulled_prefix (hideal : Ideal push pull start items)
    (hpulled : Pulled pull start got final) :
    got <+: items ∧ final = pushed push start got := by
  induction hpulled with
  | nil => exact ⟨List.nil_prefix, rfl⟩
  | @snoc read item cipher state next _ hpull ih =>
      obtain ⟨⟨rest, hrest⟩, hstate⟩ := ih
      rw [hstate] at hpull
      cases rest with
      | nil =>
          rw [List.append_nil] at hrest
          rw [hrest, hideal.last cipher] at hpull
          exact nomatch hpull
      | cons first rest =>
          obtain ⟨hitem, hnext⟩ :=
            hideal.next read first rest hrest.symm cipher item next hpull
          refine ⟨⟨rest, ?_⟩, ?_⟩
          · rw [hitem, ← hrest, List.append_assoc, List.singleton_append]
          · rw [pushed_concat, hitem, ← hnext]

/-- The next push is accepted. -/
theorem Exact.pull_push {item : Item} (hexact : Exact push pull start (item :: items)) :
    pull start (push start item).1 = some (item, (push start item).2) :=
  (hexact.1 _ _ _).mpr ⟨rfl, rfl⟩

/-- A string that is not the next push is refused. -/
theorem Exact.pull_none {item : Item} {cipher : Cipher}
    (hexact : Exact push pull start (item :: items))
    (hother : cipher ≠ (push start item).1) : pull start cipher = none := by
  refine Option.eq_none_iff_forall_ne_some.mpr fun accepted haccepted => hother ?_
  exact congrArg Prod.fst ((hexact.1 _ _ _).mp haccepted).2

end ProntoChat.OrderedStream
