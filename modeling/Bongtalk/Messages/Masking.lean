import Bongtalk.Messages.Dto

/-!
# Blocked authors stay unread

Two lists of messages that differ only in what blocked authors wrote look the same to the
viewer. Reactions are counts of the readers, and stay.
-/

namespace Bongtalk.Messages

open Prisma List

variable {Ast Attachment Embed RichEmbed : Type}

/-- Two messages that may differ in what a blocked author wrote: in the body, and in the text of
the excerpt. -/
structure AlikeOutsideBlocked (blockedIds : List UserId)
    (rootAuthorByMessageId : Option (MessageId → Option UserId))
    (first second : MessageDto Ast Attachment Embed RichEmbed) : Prop where
  frame : first.toMessageFrame = second.toMessageFrame
  body : first.authorId ∉ blockedIds → first.toMessageBody = second.toMessageBody
  isExcerpt : first.parentExcerpt.isSome = second.parentExcerpt.isSome
  excerpt : first.authorId ∉ blockedIds →
    (∀ rootAuthor rootAuthorId, rootAuthorByMessageId = some rootAuthor →
      rootAuthor first.id = some rootAuthorId → rootAuthorId ∉ blockedIds) →
    first.parentExcerpt = second.parentExcerpt

section Message

variable {blockedIds : List UserId} {rootAuthorByMessageId : Option (MessageId → Option UserId)}
  {first second dto : MessageDto Ast Attachment Embed RichEmbed}

theorem MessageDto.ext_parts (frame : first.toMessageFrame = second.toMessageFrame)
    (body : first.toMessageBody = second.toMessageBody)
    (excerpt : first.parentExcerpt = second.parentExcerpt) : first = second := by
  cases first
  cases second
  obtain rfl := frame
  obtain rfl := body
  obtain rfl := excerpt
  rfl

theorem emptiedExcerpt_eq {one other : Option String} (same : one.isSome = other.isSome) :
    emptiedExcerpt one = emptiedExcerpt other := by
  cases one <;> cases other <;> first | rfl | cases same

section

variable (alike : AlikeOutsideBlocked blockedIds rootAuthorByMessageId first second)

include alike

/-- Deleted messages have no body. -/
theorem body_of_not_blocked (notBlocked : ¬rowAuthorBlocked blockedIds first = true) :
    first.toMessageBody = second.toMessageBody := by
  by_cases deleted : first.deleted = true
  · have alsoDeleted : second.deleted = true := by
      rw [← deleted]
      exact congrArg MessageFrame.deleted alike.frame.symm
    rw [(first.blank deleted).1, (second.blank alsoDeleted).1]
  · refine alike.body fun blocked => notBlocked ?_
    simp [rowAuthorBlocked, blocked, deleted]

theorem excerpt_of_not_blocked (notBlocked : ¬rowAuthorBlocked blockedIds first = true)
    (rootNotBlocked : ¬rootAuthorBlocked blockedIds rootAuthorByMessageId first = true) :
    first.parentExcerpt = second.parentExcerpt := by
  by_cases deleted : first.deleted = true
  · have alsoDeleted : second.deleted = true := by
      rw [← deleted]
      exact congrArg MessageFrame.deleted alike.frame.symm
    rw [(first.blank deleted).2, (second.blank alsoDeleted).2]
  · apply alike.excerpt
    · intro blocked
      exact notBlocked (by simp [rowAuthorBlocked, blocked, deleted])
    · rintro rootAuthor rootAuthorId rfl isRoot blocked
      exact rootNotBlocked (by simp [rootAuthorBlocked, isRoot, blocked, deleted])

/-- Masking hides in what messages differ. -/
theorem maskBlockedAuthor_eq :
    maskBlockedAuthor blockedIds rootAuthorByMessageId first =
      maskBlockedAuthor blockedIds rootAuthorByMessageId second := by
  have sameRow : rowAuthorBlocked blockedIds first = rowAuthorBlocked blockedIds second :=
    congrArg (fun frame : MessageFrame Attachment RichEmbed =>
      blockedIds.contains frame.authorId && !frame.deleted) alike.frame
  have sameRoot : rootAuthorBlocked blockedIds rootAuthorByMessageId first =
      rootAuthorBlocked blockedIds rootAuthorByMessageId second :=
    congrArg (fun frame : MessageFrame Attachment RichEmbed =>
      ((rootAuthorByMessageId.bind fun rootAuthor => rootAuthor frame.id).any
        blockedIds.contains) && !frame.deleted) alike.frame
  unfold maskBlockedAuthor
  by_cases rowBlocked : rowAuthorBlocked blockedIds first = true
  · rw [dif_pos rowBlocked, dif_pos (sameRow ▸ rowBlocked)]
    exact MessageDto.ext_parts alike.frame rfl (emptiedExcerpt_eq alike.isExcerpt)
  · rw [dif_neg rowBlocked, dif_neg (sameRow ▸ rowBlocked)]
    have body := body_of_not_blocked alike rowBlocked
    by_cases rootBlocked : rootAuthorBlocked blockedIds rootAuthorByMessageId first = true
    · rw [if_pos rootBlocked, if_pos (sameRoot ▸ rootBlocked)]
      exact MessageDto.ext_parts alike.frame body (emptiedExcerpt_eq alike.isExcerpt)
    · rw [if_neg rootBlocked, if_neg (sameRoot ▸ rootBlocked)]
      exact MessageDto.ext_parts alike.frame body
        (excerpt_of_not_blocked alike rowBlocked rootBlocked)

end

/-- Masking leaves the frame alone. -/
theorem toMessageFrame_maskBlockedAuthor :
    (maskBlockedAuthor blockedIds rootAuthorByMessageId dto).toMessageFrame =
      dto.toMessageFrame := by
  unfold maskBlockedAuthor
  split
  · rfl
  · split <;> rfl

/-- A blocked author's message has the placeholder for a body, or is deleted and has none. -/
theorem toMessageBody_maskBlockedAuthor (blocked : dto.authorId ∈ blockedIds) :
    (maskBlockedAuthor blockedIds rootAuthorByMessageId dto).toMessageBody =
      if dto.deleted then {} else blockedBody := by
  unfold maskBlockedAuthor
  by_cases deleted : dto.deleted = true
  · have notBlocked : ¬rowAuthorBlocked blockedIds dto = true := by
      simp [rowAuthorBlocked, deleted]
    rw [dif_neg notBlocked, if_pos deleted]
    split
    · exact (dto.blank deleted).1
    · exact (dto.blank deleted).1
  · have rowBlocked : rowAuthorBlocked blockedIds dto = true := by
      simp [rowAuthorBlocked, blocked, deleted]
    rw [dif_pos rowBlocked, if_neg deleted]

theorem maskBlockedAuthor_of_nobody : maskBlockedAuthor [] rootAuthorByMessageId dto = dto := by
  have notBlocked : ¬rowAuthorBlocked [] dto = true := by simp [rowAuthorBlocked]
  have nobody : ∀ root : Option UserId, root.any ([] : List UserId).contains = false := by
    intro root
    cases root <;> rfl
  have rootNotBlocked : ¬rootAuthorBlocked [] rootAuthorByMessageId dto = true := by
    rw [rootAuthorBlocked, nobody, Bool.false_and]
    exact Bool.false_ne_true
  rw [maskBlockedAuthor, dif_neg notBlocked, if_neg rootNotBlocked]

/-- The early return makes no difference. -/
theorem maskBlockedAuthors_eq_map (dtos : List (MessageDto Ast Attachment Embed RichEmbed)) :
    maskBlockedAuthors dtos blockedIds rootAuthorByMessageId =
      dtos.map (maskBlockedAuthor blockedIds rootAuthorByMessageId) := by
  unfold maskBlockedAuthors
  split
  next nobody =>
    obtain rfl := length_eq_zero_iff.mp nobody
    calc
      dtos = dtos.map id := (map_id dtos).symm
      _ = dtos.map (maskBlockedAuthor [] rootAuthorByMessageId) :=
        map_congr_left fun dto _ => maskBlockedAuthor_of_nobody.symm
  · rfl

end Message

/-- Lists that differ only in what blocked authors wrote are masked alike, no body of a blocked
author is left, and the reactions stay. -/
theorem masked_alike (blockedIds : List UserId)
    (rootAuthorByMessageId : Option (MessageId → Option UserId))
    {first second : List (MessageDto Ast Attachment Embed RichEmbed)}
    (alike : Forall₂ (AlikeOutsideBlocked blockedIds rootAuthorByMessageId) first second) :
    maskBlockedAuthors first blockedIds rootAuthorByMessageId =
        maskBlockedAuthors second blockedIds rootAuthorByMessageId ∧
      (∀ dto ∈ maskBlockedAuthors first blockedIds rootAuthorByMessageId,
        dto.authorId ∈ blockedIds → dto.toMessageBody = if dto.deleted then {} else blockedBody) ∧
      (maskBlockedAuthors first blockedIds rootAuthorByMessageId).map (·.reactions) =
        first.map (·.reactions) := by
  simp only [maskBlockedAuthors_eq_map]
  refine ⟨?_, ?_, ?_⟩
  · induction alike with
    | nil => rfl
    | cons head _ ih =>
      rw [map_cons, map_cons, maskBlockedAuthor_eq head, ih]
  · intro masked maskedMem blocked
    obtain ⟨dto, -, rfl⟩ := mem_map.mp maskedMem
    have frame : (maskBlockedAuthor blockedIds rootAuthorByMessageId dto).toMessageFrame =
        dto.toMessageFrame := toMessageFrame_maskBlockedAuthor
    rw [frame] at blocked ⊢
    exact toMessageBody_maskBlockedAuthor blocked
  · rw [map_map]
    refine map_congr_left fun dto _ => ?_
    exact congrArg MessageFrame.reactions toMessageFrame_maskBlockedAuthor

/-- A message of user 1 with a content and reactions. -/
def writtenBy1 (content : String) (reactions : List ReactionSummary) :
    MessageDto Unit Unit Unit Unit :=
  MessageRow.toDto
    { id := ⟨1⟩, channelId := ⟨1⟩, authorId := ⟨1⟩, content := content, contentPlain := content,
      createdAt := 1 }
    reactions

theorem greetings_masked_alike :
    Forall₂ (AlikeOutsideBlocked [⟨1⟩] none) [writtenBy1 "hello" []] [writtenBy1 "bye" []] ∧
      maskBlockedAuthors [writtenBy1 "hello" []] [⟨1⟩] =
        maskBlockedAuthors [writtenBy1 "bye" []] [⟨1⟩] := by
  have alike : AlikeOutsideBlocked [⟨1⟩] none (writtenBy1 "hello" []) (writtenBy1 "bye" []) :=
    ⟨rfl, fun notBlocked => absurd mem_cons_self notBlocked, rfl, fun _ _ => rfl⟩
  have both : Forall₂ (AlikeOutsideBlocked [⟨1⟩] none) [writtenBy1 "hello" []]
      [writtenBy1 "bye" []] := .cons alike .nil
  exact ⟨both, (masked_alike [⟨1⟩] none both).1⟩

/-- The reactions to a blocked author's message are seen. -/
theorem reactions_seen : ∃ first second : MessageDto Unit Unit Unit Unit,
    { first.toMessageFrame with reactions := [] } = { second.toMessageFrame with reactions := [] } ∧
      first.toMessageBody = second.toMessageBody ∧ first.parentExcerpt = second.parentExcerpt ∧
      first.authorId ∈ [(⟨1⟩ : UserId)] ∧
      maskBlockedAuthors [first] [⟨1⟩] ≠ maskBlockedAuthors [second] [⟨1⟩] := by
  refine ⟨writtenBy1 "hello" [], writtenBy1 "hello" [{ emoji := "+1", count := 1, byMe := false }],
    rfl, rfl, rfl, mem_cons_self, fun same => ?_⟩
  have sameReactions := congrArg (List.map fun dto => dto.reactions) same
  have different : (maskBlockedAuthors [writtenBy1 "hello" []] [⟨1⟩]).map (·.reactions) ≠
      (maskBlockedAuthors [writtenBy1 "hello" [{ emoji := "+1", count := 1, byMe := false }]]
        [⟨1⟩]).map (·.reactions) := by
    decide
  exact different sameReactions

end Bongtalk.Messages
