import Screencast.Proofs.Site.Standing

/-!
# Deliveries that are overrun

What a delivery has found is out of date once another one, whose notice says that the gift is
active, has written the gift. If the delivery writes the gift all the same, it was overrun.
-/

namespace Screencast

namespace Site

variable {deliveries : List (Surroundings World)} {journal more : List (Nat × Issue)}
  {party other : Nat} {issue write : Issue}

/-- Whether the notice of a delivery says that a gift is active. -/
def saysActive (deliveries : List (Surroundings World)) (party : Nat) : Bool :=
  (deliveries[party]?.bind fun around => about? around.body).any fun notice =>
    notice.state = "active"

/-- Another delivery, whose notice says that the gift is active, has written the gift since a
delivery looked it up. -/
def IsOutdated (deliveries : List (Surroundings World)) (journal : List (Nat × Issue))
    (party : Nat) : Prop :=
  ∃ other lookup write, other ≠ party ∧ saysActive deliveries other = true ∧
    isLookup lookup = true ∧ isWrite write = true ∧
    [(party, lookup), (other, write)].Sublist journal

/-- A delivery has written the gift although what it had found was out of date. -/
def IsOverrun (deliveries : List (Surroundings World)) (journal : List (Nat × Issue)) : Prop :=
  ∃ earlier party write, IsOutdated deliveries earlier party ∧ isWrite write = true ∧
    earlier ++ [(party, write)] <+: journal

/-- The number of mails that were sent. -/
def sendings (journal : List (Nat × Issue)) : Nat := journal.countP fun noted => isSending noted.2

/-- The number of times that a gift was written because a notice says that it is active. -/
def activations (deliveries : List (Surroundings World)) (journal : List (Nat × Issue)) : Nat :=
  journal.countP fun noted => saysActive deliveries noted.1 && isWrite noted.2

/-! ## Counting -/

theorem sendings_append (journal more : List (Nat × Issue)) :
    sendings (journal ++ more) = sendings journal + sendings more :=
  List.countP_append

theorem activations_append
    (deliveries : List (Surroundings World))
    (journal more : List (Nat × Issue)) :
    activations deliveries (journal ++ more) =
      activations deliveries journal + activations deliveries more :=
  List.countP_append

/-- A step that issues no mail adds none. -/
theorem sendings_noted_eq_zero
    {stride : Stride World}
    (sendsNone : ∀ issue ∈ stride.issued, isSending issue = false)
    (party : Nat) :
    sendings (stride.noted party) = 0 := by
  cases issued : stride.issued with
  | none => rw [stride.noted_of_nothing issued, sendings, List.countP_nil]
  | some issue => simp [stride.noted_of_issued issued, sendings, sendsNone issue issued]

/-- A step that writes no gift adds no activation. -/
theorem activations_noted_eq_zero
    {stride : Stride World}
    (writesNone : ∀ issue ∈ stride.issued, isWrite issue = false)
    (deliveries : List (Surroundings World))
    (party : Nat) :
    activations deliveries (stride.noted party) = 0 := by
  cases issued : stride.issued with
  | none => rw [stride.noted_of_nothing issued, activations, List.countP_nil]
  | some issue => simp [stride.noted_of_issued issued, activations, writesNone issue issued]

theorem activations_singleton (writes : isWrite write = true) :
    activations deliveries [(party, write)] = (saysActive deliveries party).toNat := by
  rw [activations, List.countP_singleton, writes, Bool.and_true]
  cases saysActive deliveries party <;> rfl

/-! ## Out of date -/

theorem IsOutdated.exists_lookup (isOutdated : IsOutdated deliveries journal party) :
    ∃ lookup, isLookup lookup = true ∧ (party, lookup) ∈ journal := by
  obtain ⟨_, lookup, _, _, _, looksUp, _, noted⟩ := isOutdated
  exact ⟨lookup, looksUp, noted.subset List.mem_cons_self⟩

/-- If a delivery is out of date, the gift was written by another one that says that it is active.
-/
theorem IsOutdated.activations_pos (isOutdated : IsOutdated deliveries journal party) :
    0 < activations deliveries journal := by
  obtain ⟨other, _, write, _, isTold, _, writes, noted⟩ := isOutdated
  refine List.countP_pos_iff.2 ⟨(other, write), noted.subset (by simp), ?_⟩
  rw [isTold, writes]
  rfl

/-- A delivery becomes out of date when another one, whose notice says that the gift is active,
writes the gift after it was looked up. -/
theorem isOutdated_append_singleton :
    IsOutdated deliveries (journal ++ [(other, issue)]) party ↔
      IsOutdated deliveries journal party ∨
        (other ≠ party ∧ saysActive deliveries other = true ∧ isWrite issue = true ∧
          ∃ lookup, isLookup lookup = true ∧ (party, lookup) ∈ journal) := by
  constructor
  · rintro ⟨author, lookup, write, isOther, isTold, looksUp, writes, noted⟩
    obtain ⟨first, last, parts, before, isLast⟩ := List.sublist_append_iff.1 noted
    rcases List.sublist_singleton.1 isLast with rfl | rfl
    · rw [List.append_nil] at parts
      exact Or.inl ⟨author, lookup, write, isOther, isTold, looksUp, writes, parts ▸ before⟩
    · have pair : [(party, lookup)] ++ [(author, write)] = first ++ [(other, issue)] := parts
      obtain ⟨isFirst, same⟩ := List.append_inj' pair rfl
      cases same
      refine Or.inr ⟨isOther, isTold, writes, lookup, looksUp, ?_⟩
      exact (isFirst ▸ before).subset List.mem_cons_self
  · rintro (⟨author, lookup, write, isOther, isTold, looksUp, writes, noted⟩ |
      ⟨isOther, isTold, writes, lookup, looksUp, present⟩)
    · exact ⟨author, lookup, write, isOther, isTold, looksUp, writes,
        noted.trans (List.sublist_append_left _ _)⟩
    · exact ⟨other, lookup, issue, isOther, isTold, looksUp, writes,
        (List.singleton_sublist.2 present).append (List.Sublist.refl [(other, issue)])⟩

/-- A step that writes no gift leaves nobody out of date. -/
theorem isOutdated_append_noted
    {stride : Stride World}
    (writesNone : ∀ issue ∈ stride.issued, isWrite issue = false) :
    IsOutdated deliveries (journal ++ stride.noted other) party ↔
      IsOutdated deliveries journal party := by
  cases issued : stride.issued with
  | none => rw [stride.noted_of_nothing issued, List.append_nil]
  | some issue =>
      rw [stride.noted_of_issued issued, isOutdated_append_singleton]
      refine or_iff_left fun ⟨_, _, writes, _⟩ => ?_
      cases (writesNone issue issued).symm.trans writes

/-! ## Overrun -/

theorem IsOverrun.mono
    (isOverrun : IsOverrun deliveries journal)
    (longer : journal <+: more) :
    IsOverrun deliveries more := by
  obtain ⟨earlier, party, write, isOutdated, writes, noted⟩ := isOverrun
  exact ⟨earlier, party, write, isOutdated, writes, noted.trans longer⟩

theorem not_isOverrun_nil : ¬IsOverrun deliveries [] := by
  rintro ⟨earlier, party, write, _, _, noted⟩
  cases (List.append_eq_nil_iff.1 (List.prefix_nil.1 noted)).2

/-- A delivery is overrun when it writes the gift while it is out of date. -/
theorem isOverrun_append_singleton :
    IsOverrun deliveries (journal ++ [(party, issue)]) ↔
      IsOverrun deliveries journal ∨
        (isWrite issue = true ∧ IsOutdated deliveries journal party) := by
  constructor
  · rintro ⟨earlier, author, write, isOutdated, writes, noted⟩
    rcases List.prefix_concat_iff.1 noted with same | isEarlier
    · obtain ⟨rfl, isLast⟩ := List.append_inj' same rfl
      cases isLast
      exact Or.inr ⟨writes, isOutdated⟩
    · exact Or.inl ⟨earlier, author, write, isOutdated, writes, isEarlier⟩
  · rintro (isOverrun | ⟨writes, isOutdated⟩)
    · exact isOverrun.mono (List.prefix_append _ _)
    · exact ⟨journal, party, issue, isOutdated, writes, List.prefix_rfl⟩

/-- A step that writes no gift overruns nobody. -/
theorem isOverrun_append_noted
    {stride : Stride World}
    (writesNone : ∀ issue ∈ stride.issued, isWrite issue = false) :
    IsOverrun deliveries (journal ++ stride.noted party) ↔ IsOverrun deliveries journal := by
  cases issued : stride.issued with
  | none => rw [stride.noted_of_nothing issued, List.append_nil]
  | some issue =>
      rw [stride.noted_of_issued issued, isOverrun_append_singleton]
      refine or_iff_left fun ⟨writes, _⟩ => ?_
      cases (writesNone issue issued).symm.trans writes

/-- A delivery is overrun only if gifts are written twice. -/
theorem IsOverrun.two_le_countP (isOverrun : IsOverrun deliveries journal) :
    2 ≤ journal.countP fun noted => isWrite noted.2 := by
  obtain ⟨earlier, party, write, ⟨other, _, between, _, _, _, writes, present⟩, writesToo, noted⟩ :=
    isOverrun
  refine le_trans ?_ noted.sublist.countP_le
  have isWritten : 0 < earlier.countP fun noted => isWrite noted.2 :=
    List.countP_pos_iff.2 ⟨(other, between), present.subset (by simp), writes⟩
  rw [List.countP_append, List.countP_singleton, if_pos writesToo]
  omega

/-! ## What a delivery knows -/

/-- What a delivery that has found the gift active or not knows of the one on record: if it was
active it still is, and it has become active exactly if what was found is out of date. -/
structure Knows (deliveries : List (Surroundings World)) (journal : List (Nat × Issue)) (party : Nat)
    (wasActive isActive : Bool) : Prop where
  looked : ∃ lookup, isLookup lookup = true ∧ (party, lookup) ∈ journal
  stays : wasActive = true → isActive = true
  isOutdated_iff : IsOutdated deliveries journal party ↔ wasActive = false ∧ isActive = true

namespace Knows

variable {wasActive isActive isActiveThen : Bool}

/-- Who finds the gift on record for the first time knows it. -/
theorem of_isLookup
    {lookup : Issue}
    (fresh : ∀ lookup, isLookup lookup = true → (party, lookup) ∉ journal)
    (looksUp : isLookup lookup = true) :
    Knows deliveries (journal ++ [(party, lookup)]) party isActive isActive := by
  refine ⟨⟨lookup, looksUp, by simp⟩, id, fun isOutdated => ?_, fun ⟨isInactive, isActive⟩ => ?_⟩
  · rcases isOutdated_append_singleton.1 isOutdated with wasOutdated | ⟨isOther, _⟩
    · obtain ⟨earlier, looksUpToo, present⟩ := wasOutdated.exists_lookup
      exact absurd present (fresh earlier looksUpToo)
    · exact absurd rfl isOther
  · cases isInactive.symm.trans isActive

/-- What was known is known still after a step that writes no gift. -/
theorem append_noted
    {stride : Stride World}
    (knows : Knows deliveries journal party wasActive isActive)
    (writesNone : ∀ issue ∈ stride.issued, isWrite issue = false) :
    Knows deliveries (journal ++ stride.noted other) party wasActive isActive := by
  obtain ⟨⟨lookup, looksUp, present⟩, stays, isOutdated_iff⟩ := knows
  exact ⟨⟨lookup, looksUp, List.mem_append_left _ present⟩, stays,
    (isOutdated_append_noted writesNone).trans isOutdated_iff⟩

/-- Who knows the gift knows it also after another delivery has written it. -/
theorem written
    (knows : Knows deliveries journal party wasActive isActive)
    (isOther : other ≠ party)
    (writes : isWrite write = true)
    (once : IsMailedOnce (some isActive) (some isActiveThen) (saysActive deliveries other).toNat) :
    Knows deliveries (journal ++ [(other, write)]) party wasActive isActiveThen := by
  obtain ⟨⟨lookup, looksUp, present⟩, stays, isOutdated_iff⟩ := knows
  refine ⟨⟨lookup, looksUp, List.mem_append_left _ present⟩, ?_, ?_⟩
  · exact fun wasActive =>
      Option.some.inj (once.eq_some_true (congrArg some (stays wasActive)))
  · rw [isOutdated_append_singleton]
    rcases once with ⟨isSilent, same⟩ | ⟨isTold, wasInactive, becomesActive⟩
    · rw [Option.some.inj same, ← isOutdated_iff]
      refine or_iff_left fun ⟨_, isTold, _⟩ => ?_
      rw [isTold] at isSilent
      cases isSilent
    · have isInactive : wasActive = false := by
        refine Bool.eq_false_iff.2 fun wasActive => ?_
        cases (stays wasActive).symm.trans (Option.some.inj wasInactive)
      refine iff_of_true (Or.inr ?_) ⟨isInactive, Option.some.inj becomesActive⟩
      exact ⟨isOther, Bool.toNat_eq_one.1 isTold, writes, lookup, looksUp, present⟩

/-- Unless it is out of date, what was found is as active as the gift on record. -/
theorem eq_of_not_isOutdated
    (knows : Knows deliveries journal party wasActive isActive)
    (isCurrent : ¬IsOutdated deliveries journal party) :
    wasActive = isActive := by
  refine Bool.eq_iff_iff.2 ⟨knows.stays, fun isActive => ?_⟩
  by_contra isInactive
  exact isCurrent (knows.isOutdated_iff.2 ⟨Bool.eq_false_iff.2 isInactive, isActive⟩)

end Knows

end Site

end Screencast
