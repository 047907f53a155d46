import Bongtalk.Auth.Permissions

/-!
# From catalog masks to enforcement masks
-/

namespace Bongtalk.Channels.Permission

open Library Auth Shared Permission

/-- The enforcement bits a catalog bit stands for. -/
def catalogToEnforcement : List (PermissionFlag × Mask) :=
  [(.viewChannel, Permission.read),
    (.sendMessages, writeMessage),
    (.readHistory, 0),
    (.manageMessages, deleteAnyMessage),
    (.attachFiles, uploadAttachment ||| deleteOwnMessage),
    (.addReactions, 0),
    (.useSlashCommands, 0),
    (.mentionEveryone, 0),
    (.manageChannel, manageChannel ||| manageMembers),
    (.manageWebhooks, 0),
    (.createInvites, 0),
    (.useExternalEmoji, 0),
    (.bypassSlowmode, bypassSlowmode)]

/-- The enforcement mask of a catalog mask; an administrator gets every bit. -/
def bigintToEnforcementMask (mask : Nat) : Mask :=
  if mask &&& permissions .administrator ≠ 0 then Auth.allPermissions
  else
    Masks.orFrom 0 (fun entry => if mask &&& permissions entry.1 ≠ 0 then entry.2 else 0)
      catalogToEnforcement

/-- The seeded system roles convert to their baselines. -/
theorem bigintToEnforcementMask_systemRole (role : SystemRoleName) :
    bigintToEnforcementMask (systemRolePermissions role) = roleBaseline role := by
  cases role <;> decide

/-- A mask inside another one enforces no more than it. -/
theorem bigintToEnforcementMask_mono {inner outer : Nat}
    (inside : ∀ index, inner.testBit index = true → outer.testBit index = true) {index : Nat}
    (enforced : (bigintToEnforcementMask inner).getLsbD index = true) :
    (bigintToEnforcementMask outer).getLsbD index = true := by
  have meets : ∀ flag, inner &&& permissions flag ≠ 0 → outer &&& permissions flag ≠ 0 := by
    intro flag met
    have held := inside _ ((Masks.and_shiftLeft_one_ne_zero_iff _ _).mp met)
    exact (Masks.and_shiftLeft_one_ne_zero_iff _ _).mpr held
  have fromEntry : ∀ mask : Nat, (Masks.orFrom 0
      (fun entry : PermissionFlag × Mask => if mask &&& permissions entry.1 ≠ 0 then entry.2 else 0)
        catalogToEnforcement).getLsbD index = true ↔
      ∃ entry ∈ catalogToEnforcement, mask &&& permissions entry.1 ≠ 0 ∧
        entry.2.getLsbD index = true := by
    intro mask
    rw [Masks.getLsbD_orFrom]
    simp only [BitVec.ofNat_eq_ofNat, BitVec.getLsbD_zero, Bool.false_eq_true, false_or]
    refine exists_congr fun entry => and_congr_right fun _ => ?_
    split
    next met => simp [met]
    next unmet => simp [unmet]
  -- Every entry of the table lies within the mask of an administrator.
  have within : ∀ entry ∈ catalogToEnforcement, entry.2 &&& Auth.allPermissions = entry.2 := by
    decide
  by_cases administrates : outer &&& permissions .administrator ≠ 0
  · rw [bigintToEnforcementMask, if_pos administrates]
    rw [bigintToEnforcementMask] at enforced
    split at enforced
    · exact enforced
    obtain ⟨entry, entryMem, -, held⟩ := (fromEntry inner).mp enforced
    rw [← within entry entryMem, BitVec.getLsbD_and, Bool.and_eq_true] at held
    exact held.2
  · rw [bigintToEnforcementMask, if_neg (fun met => administrates (meets _ met))] at enforced
    rw [bigintToEnforcementMask, if_neg administrates]
    obtain ⟨entry, entryMem, met, held⟩ := (fromEntry inner).mp enforced
    exact (fromEntry outer).mpr ⟨entry, entryMem, meets _ met, held⟩

/-- `READ` is the catalog's view bit, or comes with the administrator bit. -/
theorem bigintToEnforcementMask_read (mask : Nat) :
    (bigintToEnforcementMask mask).getLsbD 0 = has mask (permissions .viewChannel) := by
  have viewBit : (mask &&& permissions .viewChannel == permissions .viewChannel) =
      mask.testBit PermissionFlag.viewChannel.shift := hasRaw_eq_testBit mask .viewChannel
  have distinct : permissions .viewChannel ≠ permissions .administrator := by decide
  by_cases administrates : mask &&& permissions .administrator ≠ 0
  · simp only [bigintToEnforcementMask, has, if_pos administrates,
      if_pos (And.intro administrates distinct)]
    decide
  · have notBypassed : ¬(mask &&& permissions .administrator ≠ 0 ∧
        permissions .viewChannel ≠ permissions .administrator) :=
      fun bypassed => administrates bypassed.1
    rw [bigintToEnforcementMask, if_neg administrates, has, if_neg notBypassed, viewBit,
      Bool.eq_iff_iff, Masks.getLsbD_orFrom]
    constructor
    · rintro (initial | ⟨⟨flag, bits⟩, entryMem, held⟩)
      · simp at initial
      · -- No other entry of the table carries the enforcement bit `READ`.
        have only : ∀ entry ∈ catalogToEnforcement, entry.2.getLsbD 0 = true →
            entry.1 = .viewChannel := by decide
        split at held
        next meets =>
          have flagEq : flag = .viewChannel := only _ entryMem held
          subst flagEq
          exact (Masks.and_shiftLeft_one_ne_zero_iff _ _).mp meets
        next => simp at held
    · intro held
      refine .inr ⟨(.viewChannel, Permission.read), List.mem_cons_self, ?_⟩
      have meets : mask &&& permissions .viewChannel ≠ 0 :=
        (Masks.and_shiftLeft_one_ne_zero_iff _ _).mpr held
      rw [if_pos meets]
      decide

end Bongtalk.Channels.Permission
