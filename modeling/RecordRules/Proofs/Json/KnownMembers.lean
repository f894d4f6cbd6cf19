import Mathlib.Data.List.Pairwise
import Mathlib.Data.List.Perm.Basic
import RecordRules.Proofs.Json.Interpretation

/-!
# Objects with known members

An object is read into places that are free at first.  A known member fills the place of its name,
and is refused if the place is taken; other members leave everything as it is.  If the places do
not touch each other, what is made of an object does not depend on the order of its members, on
members that are not known, or on a member that only says what is assumed without it.
-/

namespace RecordRules.Json

/-! ## Places -/

/-- A place of a state, with what it holds and how it is filled. -/
structure Place (σ α : Type) where
  held : σ → Option α
  put : σ → α → σ
  held_put : ∀ state value, held (put state value) = some value

namespace Place

variable {σ α β : Type}

/-- The state with a place filled; there is none if the place is taken or nothing is to fill it. -/
def fill (place : Place σ α) (state : σ) (value : Option α) : Option σ :=
  if (place.held state).isSome then none else value.map (place.put state)

/-- Whether filling either place leaves the other as it is. -/
structure Apart (first : Place σ α) (second : Place σ β) : Prop where
  second_held : ∀ state value, second.held (first.put state value) = second.held state
  first_held : ∀ state value, first.held (second.put state value) = first.held state
  put_put : ∀ state value other,
    second.put (first.put state value) other = first.put (second.put state other) value

variable {first : Place σ α} {second : Place σ β} {state : σ}

theorem Apart.symm (apart : first.Apart second) : second.Apart first :=
  ⟨apart.first_held, apart.second_held, fun state value other =>
    (apart.put_put state other value).symm⟩

theorem fill_eq_some {place : Place σ α} {value : Option α} {next : σ}
    (filled : place.fill state value = some next) :
    ∃ item, value = some item ∧ place.held state = none ∧ next = place.put state item := by
  unfold fill at filled
  split at filled
  · cases filled
  · next free =>
      obtain ⟨item, rfl, rfl⟩ := Option.map_eq_some_iff.mp filled
      exact ⟨item, rfl, by simpa using free, rfl⟩

theorem fill_fill (place : Place σ α) (state : σ) (value other : Option α) :
    (place.fill state value).bind (place.fill · other) = none := by
  cases filled : place.fill state value with
  | none => rfl
  | some next =>
      obtain ⟨item, -, -, rfl⟩ := fill_eq_some filled
      simp [fill, place.held_put]

/-- Places that do not touch each other may be filled in either order. -/
theorem Apart.fill_comm (apart : first.Apart second) (state : σ) (value : Option α)
    (other : Option β) :
    (first.fill state value).bind (second.fill · other) =
      (second.fill state other).bind (first.fill · value) := by
  unfold fill
  cases takenFirst : first.held state <;> cases takenSecond : second.held state <;>
    cases value <;> cases other <;>
    simp [apart.second_held, apart.first_held, apart.put_put, takenFirst, takenSecond]

end Place

/-! ## Known members -/

/-- A member that is known: its name, the place that it fills and what is made of its value. -/
structure KnownMember (σ : Type) where
  name : String
  Value : Type
  place : Place σ Value
  meaning : Tree → Option Value

/-- How a member is taken: a known one fills its place, any other is passed over. -/
def takeKnown {σ : Type} (known : List (KnownMember σ)) (state : σ) (key : String) (tree : Tree) :
    Option σ :=
  match known.find? (·.name == key) with
  | some member => member.place.fill state (member.meaning tree)
  | none => some state

/-- Whether two known members have different names and do not touch each other's places. -/
structure KnownMember.Apart {σ : Type} (first second : KnownMember σ) : Prop where
  names : first.name ≠ second.name
  places : first.place.Apart second.place

instance {σ : Type} : Std.Symm (@KnownMember.Apart σ) where
  symm _ _ apart := ⟨apart.names.symm, apart.places.symm⟩

section Taking

variable {σ : Type} {known : List (KnownMember σ)} {state next : σ} {key : String}

theorem takeKnown_of_unknown (unknown : key ∉ known.map (·.name)) (state : σ) (tree : Tree) :
    takeKnown known state key tree = some state := by
  have missing : known.find? (·.name == key) = none := by
    rw [List.find?_eq_none]
    intro member among same
    exact unknown (List.mem_map.mpr ⟨member, among, by simpa using same⟩)
  rw [takeKnown, missing]

theorem exists_takeKnown_eq_fill (named : key ∈ known.map (·.name)) :
    ∃ member ∈ known, member.name = key ∧
      ∀ state tree, takeKnown known state key tree =
        member.place.fill state (member.meaning tree) := by
  cases found : known.find? (·.name == key) with
  | none =>
      rw [List.find?_eq_none] at found
      obtain ⟨member, among, same⟩ := List.mem_map.mp named
      exact absurd (by simpa using same) (found member among)
  | some member =>
      have same : member.name = key := by simpa using List.find?_some found
      refine ⟨member, List.mem_of_find?_eq_some found, same, fun state tree => ?_⟩
      rw [takeKnown, found]

theorem takeKnown_again (named : key ∈ known.map (·.name)) (state : σ) (tree other : Tree) :
    (takeKnown known state key tree).bind (takeKnown known · key other) = none := by
  obtain ⟨member, -, -, taken⟩ := exists_takeKnown_eq_fill named
  simp only [taken]
  exact member.place.fill_fill state _ _

section Apart

variable (apart : known.Pairwise KnownMember.Apart)

include apart

theorem takeKnown_of_mem {member : KnownMember σ} (among : member ∈ known) (state : σ)
    (tree : Tree) :
    takeKnown known state member.name tree = member.place.fill state (member.meaning tree) := by
  obtain ⟨found, amongFound, same, taken⟩ :=
    exists_takeKnown_eq_fill (List.mem_map.mpr ⟨member, among, rfl⟩)
  have one : found = member := by
    by_contra different
    exact (apart.forall amongFound among different).names same
  rw [taken, one]

/-- Two members may be taken in either order. -/
theorem takeKnown_comm (state : σ) (key otherKey : String)
    (tree other : Tree) :
    (takeKnown known state key tree).bind (takeKnown known · otherKey other) =
      (takeKnown known state otherKey other).bind (takeKnown known · key tree) := by
  by_cases named : key ∈ known.map (·.name)
  · by_cases namedOther : otherKey ∈ known.map (·.name)
    · obtain ⟨first, amongFirst, nameFirst, takenFirst⟩ := exists_takeKnown_eq_fill named
      obtain ⟨second, amongSecond, nameSecond, takenSecond⟩ := exists_takeKnown_eq_fill namedOther
      by_cases same : first = second
      · -- Of two members of one name the second is refused, whichever it is.
        obtain rfl : key = otherKey := by rw [← nameFirst, ← nameSecond, same]
        rw [takeKnown_again named, takeKnown_again named]
      · simp only [takenFirst, takenSecond]
        exact (apart.forall amongFirst amongSecond same).places.fill_comm state _ _
    · simp only [takeKnown_of_unknown namedOther, Option.bind_some, Option.bind_fun_some]
  · simp only [takeKnown_of_unknown named, Option.bind_some, Option.bind_fun_some]

theorem held_of_takeKnown {member : KnownMember σ} (among : member ∈ known)
    (other : key ≠ member.name) {tree : Tree} (taken : takeKnown known state key tree = some next) :
    member.place.held next = member.place.held state := by
  by_cases named : key ∈ known.map (·.name)
  · obtain ⟨filler, amongFiller, rfl, takes⟩ := exists_takeKnown_eq_fill named
    have different : filler ≠ member := fun same => other (congrArg KnownMember.name same)
    rw [takes] at taken
    obtain ⟨item, -, -, rfl⟩ := Place.fill_eq_some taken
    exact (apart.forall amongFiller among different).places.second_held state item
  · rw [takeKnown_of_unknown named] at taken
    obtain rfl := Option.some.inj taken
    rfl

theorem takeMember_comm (held : Option σ) (first second : List Piece × Tree) :
    takeMember (takeKnown known) (takeMember (takeKnown known) held first) second =
      takeMember (takeKnown known) (takeMember (takeKnown known) held second) first := by
  unfold takeMember
  cases held with
  | none => rfl
  | some state =>
      cases decode? first.1 with
      | none => simp
      | some key =>
          cases decode? second.1 with
          | none => simp
          | some otherKey => exact takeKnown_comm apart state key otherKey first.2 second.2

/-- The members of an object may be taken in any order. -/
theorem takeMembers_perm {members others : List (List Piece × Tree)}
    (permuted : members.Perm others) (state : σ) :
    takeMembers (takeKnown known) state members = takeMembers (takeKnown known) state others := by
  have commutative : RightCommutative (takeMember (takeKnown known)) := ⟨takeMember_comm apart⟩
  exact permuted.foldl_eq (some state)

/-- A place stays as it is if no member has its name. -/
theorem held_of_takeMembers {member : KnownMember σ} (among : member ∈ known)
    {members : List (List Piece × Tree)}
    (lacking : ∀ other ∈ members, decode? other.1 ≠ some member.name)
    (taken : takeMembers (takeKnown known) state members = some next) :
    member.place.held next = member.place.held state := by
  induction members generalizing state with
  | nil =>
      obtain rfl := Option.some.inj taken
      rfl
  | cons other members ih =>
      obtain ⟨unlike, lacking⟩ := List.forall_mem_cons.mp lacking
      rw [takeMembers_cons, Option.bind_eq_some_iff] at taken
      obtain ⟨between, first, onward⟩ := taken
      rw [takeMember, Option.bind_some] at first
      obtain ⟨key, named, takes⟩ := Option.bind_eq_some_iff.mp first
      have kept := held_of_takeKnown apart among (fun same => unlike (same ▸ named)) takes
      rw [ih lacking onward, kept]

end Apart

end Taking

/-! ## Objects -/

/-- What an object is made of: the members that are known, one of which may be left off. -/
structure ObjectForm (σ α : Type) where
  known : List (KnownMember σ)
  apart : known.Pairwise KnownMember.Apart
  start : σ
  complete : σ → Option α
  /-- The member that may be left off. -/
  optional : KnownMember σ
  /-- What is assumed without it. -/
  assumed : Tree
  among : optional ∈ known
  free : optional.place.held start = none
  assumes : ∃ value, optional.meaning assumed = some value ∧ ∀ state,
    optional.place.held state = none → complete (optional.place.put state value) = complete state

namespace ObjectForm

variable {σ α : Type} (form : ObjectForm σ α) {members others : List (List Piece × Tree)}

def make? (members : List (List Piece × Tree)) : Option α :=
  (takeMembers (takeKnown form.known) form.start members).bind form.complete

def names : List String :=
  form.known.map (·.name)

/-- One change to the members of an object that should not matter. -/
inductive Reworded : List (List Piece × Tree) → List (List Piece × Tree) → Prop where
  | permuted {members others : List (List Piece × Tree)} (same : members.Perm others) :
      Reworded members others
  | unknown {front back : List (List Piece × Tree)} {key : List Piece} {name : String}
      {value : Tree} (named : decode? key = some name) (outside : name ∉ form.names) :
      Reworded (front ++ back) (front ++ (key, value) :: back)
  | assumed {front back : List (List Piece × Tree)} {key : List Piece}
      (named : decode? key = some form.optional.name)
      (lacking : ∀ member ∈ front ++ back, decode? member.1 ≠ some form.optional.name) :
      Reworded (front ++ back) (front ++ (key, form.assumed) :: back)

/-- Whether a known member stands in an object twice. -/
def Repeats (members : List (List Piece × Tree)) : Prop :=
  ∃ name ∈ form.names, ∃ first second, [first, second].Sublist members ∧
    decode? first.1 = some name ∧ decode? second.1 = some name

variable {form}

theorem make?_unknown {front back : List (List Piece × Tree)} {key : List Piece} {name : String}
    (named : decode? key = some name) (outside : name ∉ form.names) (value : Tree) :
    form.make? (front ++ (key, value) :: back) = form.make? (front ++ back) := by
  -- It may as well be the first one, and then it leaves the start as it is.
  rw [make?, takeMembers_perm form.apart List.perm_middle, takeMembers_cons]
  simp only [takeMember, named, Option.bind_some, takeKnown_of_unknown outside]
  rfl

theorem make?_assumed {front back : List (List Piece × Tree)} {key : List Piece}
    (named : decode? key = some form.optional.name)
    (lacking : ∀ member ∈ front ++ back, decode? member.1 ≠ some form.optional.name) :
    form.make? (front ++ (key, form.assumed) :: back) = form.make? (front ++ back) := by
  -- It may as well be the last one, and then its place is still free as at the start.
  have last : (front ++ (key, form.assumed) :: back).Perm
      ((front ++ back) ++ [(key, form.assumed)]) :=
    List.perm_middle.trans (List.perm_append_singleton _ _).symm
  have behind : takeMembers (takeKnown form.known) form.start
      ((front ++ back) ++ [(key, form.assumed)]) =
        takeMember (takeKnown form.known)
          (takeMembers (takeKnown form.known) form.start (front ++ back)) (key, form.assumed) :=
    List.foldl_append
  rw [make?, make?, takeMembers_perm form.apart last, behind]
  cases taken : takeMembers (takeKnown form.known) form.start (front ++ back) with
  | none => rfl
  | some state =>
      obtain ⟨value, meant, unchanged⟩ := form.assumes
      have free : form.optional.place.held state = none :=
        (held_of_takeMembers form.apart form.among lacking taken).trans form.free
      simp only [takeMember, named, Option.bind_some, takeKnown_of_mem form.apart form.among,
        meant, Place.fill, free, Option.isSome_none, Bool.false_eq_true, if_false, Option.map_some,
        unchanged state free]

theorem Reworded.make?_eq (reworded : form.Reworded members others) :
    form.make? members = form.make? others := by
  cases reworded with
  | permuted same => rw [make?, make?, takeMembers_perm form.apart same]
  | unknown named outside => exact (make?_unknown named outside _).symm
  | assumed named lacking => exact (make?_assumed named lacking).symm

theorem Repeats.make?_eq (repeats : form.Repeats members) : form.make? members = none := by
  obtain ⟨name, known, first, second, within, namedFirst, namedSecond⟩ := repeats
  -- The two may as well be the first ones, where the second is refused.
  obtain ⟨others, permuted⟩ := within.exists_perm_append
  have again := takeKnown_again known form.start first.2 second.2
  have refused : takeMembers (takeKnown form.known) form.start ([first, second] ++ others) =
      none := by
    rw [List.cons_append, List.singleton_append, takeMembers, List.foldl_cons, List.foldl_cons]
    simp only [takeMember, namedFirst, namedSecond, Option.bind_some, again]
    exact foldl_takeMember_none _ others
  rw [make?, takeMembers_perm form.apart permuted, refused]
  rfl

theorem make?_of_refused {member : List Piece × Tree} (inside : member ∈ members)
    (refuses : ∀ state, takeMember (takeKnown form.known) (some state) member = none) :
    form.make? members = none := by
  obtain ⟨front, back, rfl⟩ := List.append_of_mem inside
  have refused : takeMembers (takeKnown form.known) form.start (front ++ member :: back) =
      none := by
    rw [takeMembers, List.foldl_append, List.foldl_cons]
    cases front.foldl (takeMember (takeKnown form.known)) (some form.start) with
    | none => exact foldl_takeMember_none _ back
    | some state =>
        rw [refuses state]
        exact foldl_takeMember_none _ back
  rw [make?, refused]
  rfl

/-- Nothing is made of an object one of whose keys stands for no text. -/
theorem make?_of_undecoded {member : List Piece × Tree} (inside : member ∈ members)
    (undecoded : decode? member.1 = none) : form.make? members = none := by
  refine make?_of_refused inside fun state => ?_
  rw [takeMember, undecoded]
  rfl

section Values

variable {member : KnownMember σ} (among : member ∈ form.known) {key : List Piece}
  (named : decode? key = some member.name) {value other : Tree}

include among named

theorem make?_of_meaningless (inside : (key, value) ∈ members)
    (meaningless : member.meaning value = none) : form.make? members = none := by
  refine make?_of_refused inside fun state => ?_
  simp only [takeMember, named, Option.bind_some, takeKnown_of_mem form.apart among, meaningless,
    Place.fill, Option.map_none, ite_self]

theorem make?_replaced (same : member.meaning value = member.meaning other)
    (front back : List (List Piece × Tree)) :
    form.make? (front ++ (key, value) :: back) = form.make? (front ++ (key, other) :: back) := by
  have taken (state : σ) : takeMember (takeKnown form.known) (some state) (key, value) =
      takeMember (takeKnown form.known) (some state) (key, other) := by
    simp only [takeMember, named, Option.bind_some, takeKnown_of_mem form.apart among, same]
  simp only [make?, takeMembers, List.foldl_append, List.foldl_cons]
  cases front.foldl (takeMember (takeKnown form.known)) (some form.start) with
  | none => rfl
  | some state => rw [taken state]

end Values

end ObjectForm

end RecordRules.Json
