/-!
# What a coalition holds

Every actor holds some authorities. A coalition stays below an earlier time when
each authority held by a member is covered by one that a member held then.
The order between authorities is a parameter.
-/

namespace Library.Coalition

universe u v

variable {Actor : Type u} {Authority : Type v}

/-- Everything a coalition holds later is covered by something it held earlier. -/
def Below (covered : Authority → Authority → Prop) (coalition : Actor → Prop)
    (later earlier : Actor → Authority → Prop) : Prop :=
  ∀ actor, coalition actor → ∀ authority, later actor authority →
    ∃ holder, coalition holder ∧ ∃ held, earlier holder held ∧ covered authority held

variable {covered : Authority → Authority → Prop} {coalition : Actor → Prop}
variable {first second third : Actor → Authority → Prop}

theorem Below.refl (reflexive : ∀ authority, covered authority authority) :
    Below covered coalition first first :=
  fun actor isMember authority held =>
    ⟨actor, isMember, authority, held, reflexive authority⟩

theorem Below.trans
    (transitive : ∀ {low middle high}, covered low middle → covered middle high → covered low high)
    (later : Below covered coalition third second)
    (earlier : Below covered coalition second first) :
    Below covered coalition third first := by
  intro actor isMember authority held
  obtain ⟨middleActor, middleMember, middleHeld, heldThen, below⟩ :=
    later actor isMember authority held
  obtain ⟨firstActor, firstMember, firstHeld, heldFirst, belowFirst⟩ :=
    earlier middleActor middleMember middleHeld heldThen
  exact ⟨firstActor, firstMember, firstHeld, heldFirst, transitive below belowFirst⟩

/-- Passing on what a member of the coalition covers keeps the coalition below what it was. -/
theorem Below.of_granted (reflexive : ∀ authority, covered authority authority)
    {grantor : Actor} (isMember : coalition grantor)
    (granted : ∀ actor authority, second actor authority →
      first actor authority ∨ ∃ held, first grantor held ∧ covered authority held) :
    Below covered coalition second first := by
  intro actor actorMember authority held
  rcases granted actor authority held with kept | ⟨source, sourceHeld, below⟩
  · exact ⟨actor, actorMember, authority, kept, reflexive authority⟩
  · exact ⟨grantor, isMember, source, sourceHeld, below⟩

end Library.Coalition
