import Bongtalk.Messages.Masking
import Bongtalk.Messages.Rewording

/-!
# Blocked authors at the reading endpoints

The list of a channel masks blocked authors everywhere. The endpoint of one message and the one of
threads mask them in direct messages only, and the pins never do.
-/

namespace Bongtalk.Messages

open Library Auth Common Prisma MessagesController ReadState List Option ReadContext
  ThreadsController

variable {Ast Attachment Embed RichEmbed : Type}

/-- Two rows that may differ in what a blocked author wrote. -/
structure AlikeRows (blockedIds : List UserId) (first second : Message) : Prop where
  frame : SameFrame first second
  content : first.authorId ∉ blockedIds → second = first

/-- Two states of the messages that may differ in what blocked authors wrote. -/
structure AlikeStates (blockedIds : List UserId) (first second : ReadState Ast Embed) : Prop where
  rows : Forall₂ (AlikeRows blockedIds) first.messages.table.rows second.messages.table.rows
  bodies : ∀ row ∈ first.messages, row.authorId ∉ blockedIds →
    first.bodies row.id = second.bodies row.id

/-- A thread is on the channel of its root. -/
def ReadRequest.IsOn (messages : MessageTable) (channelId : ChannelId) : ReadRequest → Prop
  | thread rootId _ _ => ∀ root ∈ messages, root.id = rootId → root.channelId = channelId
  | _ => True

/-- The viewer learns nothing on a channel of what blocked authors wrote: no response depends on it,
and no response has more of a message than the list has of it. -/
structure MasksBlocked (context : ReadContext Attachment RichEmbed) (state : ReadState Ast Embed)
    (viewer : Viewer) (channelId : ChannelId) : Prop where
  alike : ∀ other : ReadState Ast Embed,
    AlikeStates (context.loadBlockedUserIds viewer.userId) state other →
      ∀ request : ReadRequest, request.IsOn state.messages channelId →
        state.respond context viewer channelId request =
          other.respond context viewer channelId request
  masked : ∀ query page, state.respond context viewer channelId (.list query) = .ok (.list page) →
    ∀ listed ∈ page.items, listed.authorId ∈ context.loadBlockedUserIds viewer.userId →
      ∀ (request : ReadRequest) response, request.IsOn state.messages channelId →
        state.respond context viewer channelId request = .ok response →
          ∀ dto ∈ response.dtos, dto.id = listed.id → dto.toMessageBody = listed.toMessageBody

/-- No message of a blocked author is pinned in a direct message, and none is live elsewhere. -/
def NothingExposed (messages : MessageTable) (blockedIds : List UserId) (channel : Channel) :
    Prop :=
  if channel.type = .direct then
    ∀ row ∈ listPins messages channel.id, row.authorId ∉ blockedIds
  else
    ∀ row ∈ messages, row.channelId = channel.id → row.deletedAt = none → row.authorId ∉ blockedIds

section Rows

variable {context : ReadContext Attachment RichEmbed} {blockedIds : List UserId}
  {rootAuthorByMessageId : Option (MessageId → Option UserId)}
  {bodies otherBodies : MessageId → StoredBody Ast Embed} {userId : UserId}
  {thread : Option ThreadSummary} {excerpt otherExcerpt : Option String}
  {embeds otherEmbeds : List Embed} {row other : Message}

theorem AlikeRows.refl : AlikeRows blockedIds row row :=
  ⟨rfl, fun _ => rfl⟩

theorem SameFrame.exists_eq (same : SameFrame row other) :
    ∃ content contentPlain mentions, other =
      { row with
        content := content
        contentPlain := contentPlain
        mentions := mentions } :=
  ⟨_, _, _, same.symm⟩

/-- Rows that are alike are alike on the wire. -/
theorem alike_toDto (alike : AlikeRows blockedIds row other)
    (sameBody : row.authorId ∉ blockedIds → bodies row.id = otherBodies row.id)
    (sameEmbeds : row.authorId ∉ blockedIds → embeds = otherEmbeds)
    (isExcerpt : excerpt.isSome = otherExcerpt.isSome)
    (sameExcerpt : row.authorId ∉ blockedIds →
      (∀ rootAuthor rootAuthorId, rootAuthorByMessageId = some rootAuthor →
        rootAuthor row.id = some rootAuthorId → rootAuthorId ∉ blockedIds) →
      excerpt = otherExcerpt) :
    AlikeOutsideBlocked blockedIds rootAuthorByMessageId
      (context.toDto bodies userId thread excerpt embeds row)
      (context.toDto otherBodies userId thread otherExcerpt otherEmbeds other) := by
  refine ⟨?_, fun notBlocked => ?_, ?_, fun notBlocked rootNotBlocked => ?_⟩
  · obtain ⟨content, contentPlain, mentions, rfl⟩ := alike.frame.exists_eq
    rfl
  · obtain rfl := alike.content notBlocked
    obtain rfl := sameEmbeds notBlocked
    have sameRow : storedRow context bodies other = storedRow context otherBodies other := by
      simp only [storedRow, sameBody notBlocked]
    rw [toDto, toDto, sameRow]
    rfl
  · obtain ⟨content, contentPlain, mentions, rfl⟩ := alike.frame.exists_eq
    change (if row.deletedAt.isSome = true then none else excerpt).isSome =
      (if row.deletedAt.isSome = true then none else otherExcerpt).isSome
    split
    · rfl
    · exact isExcerpt
  · obtain rfl := alike.content notBlocked
    rw [sameExcerpt notBlocked rootNotBlocked]
    rfl

/-- What is not by a blocked author, or is deleted, is the same on the wire. -/
theorem toDto_eq (alike : AlikeRows blockedIds row other)
    (sameBody : row.authorId ∉ blockedIds → bodies row.id = otherBodies row.id)
    (sameEmbeds : row.authorId ∉ blockedIds → embeds = otherEmbeds)
    (notExposed : row.deletedAt = none → row.authorId ∉ blockedIds) :
    (context.toDto bodies userId thread none embeds row :
        MessageDto Ast Attachment Embed RichEmbed) =
      context.toDto otherBodies userId thread none otherEmbeds other := by
  have alikeDtos : AlikeOutsideBlocked blockedIds none
      (context.toDto bodies userId thread none embeds row)
      (context.toDto otherBodies userId thread none otherEmbeds other) :=
    alike_toDto alike sameBody sameEmbeds rfl fun _ _ => rfl
  have notBlocked : ¬rowAuthorBlocked blockedIds
      (context.toDto bodies userId thread none embeds row) = true := by
    intro blocked
    simp only [rowAuthorBlocked, Bool.and_eq_true, contains_iff_mem, Bool.not_eq_true']
      at blocked
    have live : row.deletedAt = none :=
      isNone_iff_eq_none.mp (isSome_eq_false_iff.mp blocked.2)
    exact notExposed live blocked.1
  apply MessageDto.ext_parts alikeDtos.frame (body_of_not_blocked alikeDtos notBlocked)
  simp only [toDto, MessageRow.toDto, ite_self]

end Rows

/-- The second state is the first one, reworded where authors are blocked. -/
structure Rewording (blockedIds : List UserId) (first second : ReadState Ast Embed)
    (change : Message → Message) : Prop where
  reworded : ∀ row, SameFrame row (change row)
  kept : ∀ row : Message, row.authorId ∉ blockedIds → change row = row
  rows : second.messages.table.rows = first.messages.table.rows.map change
  bodies : ∀ row ∈ first.messages, row.authorId ∉ blockedIds →
    first.bodies row.id = second.bodies row.id

theorem AlikeStates.exists_rewording {blockedIds : List UserId} {first second : ReadState Ast Embed}
    (alike : AlikeStates blockedIds first second) :
    ∃ change, Rewording blockedIds first second change := by
  obtain ⟨change, rows, changed⟩ := exists_map_of_forall₂ (fun _ => AlikeRows.refl)
    (Nodup.of_map _ first.messages.table.keysNodup) alike.rows
  exact ⟨change, fun row => (changed row).frame, fun row => (changed row).content, rows,
    alike.bodies⟩

/-- Two excerpts that may differ when the author of the root is blocked. -/
structure AlikeExcerpts (blockedIds : List UserId) (first second : Option BroadcastExcerpt) :
    Prop where
  isSome : first.isSome = second.isSome
  root : first.bind BroadcastExcerpt.rootAuthorId = second.bind BroadcastExcerpt.rootAuthorId
  same : (∀ rootAuthorId, first.bind BroadcastExcerpt.rootAuthorId = some rootAuthorId →
    rootAuthorId ∉ blockedIds) → first = second

section TwoStates

variable {context : ReadContext Attachment RichEmbed} {blockedIds : List UserId}
  {first second : ReadState Ast Embed} {change : Message → Message} {row : Message}

section

variable (rewording : Rewording blockedIds first second change)

include rewording

theorem Rewording.alikeRows :
    AlikeRows blockedIds row (change row) :=
  ⟨rewording.reworded row, rewording.kept row⟩

theorem alike_broadcastExcerpt (row : Message) :
    AlikeExcerpts blockedIds (broadcastExcerpt first.messages row)
      (broadcastExcerpt second.messages (change row)) := by
  have sameRoot := broadcastRoot_reworded rewording.reworded rewording.rows row
  rw [broadcastExcerpt, broadcastExcerpt, isBroadcast_reworded rewording.reworded,
    parentMessageId_reworded rewording.reworded, sameRoot]
  split
  · cases broadcastRoot first.messages row with
    | none => exact ⟨rfl, rfl, fun _ => rfl⟩
    | some root =>
      have author := authorId_reworded rewording.reworded root
      refine ⟨rfl, congrArg some author.symm, fun notBlocked => ?_⟩
      have kept := rewording.kept root (notBlocked root.authorId rfl)
      dsimp only [map_some]
      rw [kept]
  · exact ⟨rfl, rfl, fun _ => rfl⟩

theorem alike_aggregateBroadcastExcerpts (rows : List Message) (id : MessageId) :
    AlikeExcerpts blockedIds (aggregateBroadcastExcerpts first.messages rows id)
      (aggregateBroadcastExcerpts second.messages (rows.map change) id) := by
  have sameId : (fun row : Message => decide (row.id = id)) ∘ change =
      fun row : Message => decide (row.id = id) := by
    funext row
    rw [Function.comp_apply, id_reworded rewording.reworded]
  rw [aggregateBroadcastExcerpts, aggregateBroadcastExcerpts, List.find?_map, sameId]
  cases rows.find? fun row => decide (row.id = id) with
  | none => exact ⟨rfl, rfl, fun _ => rfl⟩
  | some row => exact alike_broadcastExcerpt rewording row

end

/-- The list looks the same. -/
theorem list_eq_of_rewording {member : WorkspaceMember}
    (rewording : Rewording (context.loadBlockedUserIds member.userId) first second change)
    (channel : Channel) (query : ListMessagesArgs) :
    MessagesController.list context first member channel query =
      MessagesController.list context second member channel query := by
  rw [MessagesController.list, MessagesController.list]
  refine congrArg _ (funext fun _ => ?_)
  dsimp only
  rw [list_reworded rewording.reworded rewording.rows]
  cases listed : Messages.list context.timestamp first.messages _ with
  | error failure => rfl
  | ok result =>
    have present : ∀ row ∈ result.items, row ∈ first.messages :=
      fun row rowMem => (list_maySee listed row rowMem).1
    dsimp only [Except.map, MessagePage.mapItems]
    rw [ok_bind, ok_bind, List.map_map]
    have excerpts := alike_aggregateBroadcastExcerpts rewording result.items
    have sameRoots : (fun id => (aggregateBroadcastExcerpts second.messages
        (result.items.map change) id).bind BroadcastExcerpt.rootAuthorId) = fun id =>
          (aggregateBroadcastExcerpts first.messages result.items id).bind
            BroadcastExcerpt.rootAuthorId :=
      funext fun id => (excerpts id).root.symm
    rw [sameRoots]
    congr 2
    refine (masked_alike _ _ ?_).1
    rw [List.forall₂_map_left_iff, List.forall₂_map_right_iff, List.forall₂_same]
    intro row rowMem
    simp only [Function.comp_apply, id_reworded rewording.reworded]
    apply alike_toDto rewording.alikeRows (rewording.bodies row (present row rowMem))
    · exact fun notBlocked =>
        congrArg StoredBody.embeds (rewording.bodies row (present row rowMem) notBlocked)
    · rw [Option.isSome_map, Option.isSome_map]
      exact (excerpts row.id).isSome
    · intro _ rootNotBlocked
      rw [(excerpts row.id).same fun rootAuthorId isRoot =>
        rootNotBlocked _ rootAuthorId rfl isRoot]

theorem mem_listPins {messages : MessageTable} {channelId : ChannelId}
    (listed : row ∈ listPins messages channelId) :
    row ∈ messages ∧ row.channelId = channelId ∧ row.deletedAt = none := by
  have selected :=
    Table.mem_findMany.mp ((mem_insertionSort _).mp (mem_of_mem_take listed))
  simp only [Bool.and_eq_true, beq_iff_eq] at selected
  exact ⟨selected.1, selected.2.1.1, selected.2.2⟩

theorem requireOne_eq_ok_iff {messages : MessageTable} {channelId : ChannelId} {msgId : MessageId}
    {includeDeleted : Bool} : requireOne messages channelId msgId includeDeleted = .ok row ↔
      row ∈ messages ∧ row.id = msgId ∧ row.channelId = channelId ∧
        (includeDeleted = true ∨ row.deletedAt = none) := by
  have found : (messages.findUnique msgId).filter (fun message => message.channelId == channelId &&
      (includeDeleted || message.deletedAt == none)) = some row ↔
        row ∈ messages ∧ row.id = msgId ∧ row.channelId = channelId ∧
          (includeDeleted = true ∨ row.deletedAt = none) := by
    rw [filter_eq_some_iff, MessageTable.findUnique_eq_some_iff, Bool.and_eq_true,
      Bool.or_eq_true, beq_iff_eq, beq_iff_eq, and_assoc]
  rw [← found, requireOne]
  split
  next missing =>
    rw [missing]
    exact iff_of_false failWith_ne_ok (some_ne_none row).symm
  next other isOther =>
    rw [isOther, Except.ok.injEq, Option.some.injEq]

section Channels

variable {channel : Channel} (hidden : NothingExposed first.messages blockedIds channel)

include hidden

theorem NothingExposed.not_pinned (listed : row ∈ listPins first.messages channel.id) :
    row.authorId ∉ blockedIds := by
  obtain ⟨present, ofChannel, live⟩ := mem_listPins listed
  unfold NothingExposed at hidden
  split at hidden
  · exact hidden row listed
  · exact hidden row present ofChannel live

theorem NothingExposed.not_blocked (elsewhere : channel.type ≠ .direct)
    (present : row ∈ first.messages) (ofChannel : row.channelId = channel.id)
    (live : row.deletedAt = none) :
    row.authorId ∉ blockedIds := by
  rw [NothingExposed, if_neg elsewhere] at hidden
  exact hidden row present ofChannel live

end Channels

variable {channel : Channel}

/-- The pins look the same when no blocked author wrote one. -/
theorem listPins_eq_of_rewording (rewording : Rewording blockedIds first second change)
    (hidden : NothingExposed first.messages blockedIds channel) (userId : UserId) :
    (MessagesController.listPins context first userId channel :
        ListPinsResponse Ast Attachment Embed RichEmbed) =
      MessagesController.listPins context second userId channel := by
  rw [MessagesController.listPins, MessagesController.listPins,
    listPins_reworded rewording.reworded rewording.rows, List.map_map, List.length_map]
  congr 1
  refine List.map_congr_left fun row listed => ?_
  exact toDto_eq rewording.alikeRows (rewording.bodies row (mem_listPins listed).1) (fun _ => rfl)
    fun _ => hidden.not_pinned listed

variable (context) in
/-- A row of the channel looks the same to an endpoint that masks in direct messages. -/
theorem maskBlockedAuthor_eq_of_rewording (rewording : Rewording blockedIds first second change)
    (hidden : NothingExposed first.messages blockedIds channel) (present : row ∈ first.messages)
    (ofChannel : row.channelId = channel.id) (userId : UserId) (thread : Option ThreadSummary)
    (embeds otherEmbeds : List Embed)
    (sameEmbeds : row.authorId ∉ blockedIds → embeds = otherEmbeds) :
    maskBlockedAuthor (if channel.type = .direct then blockedIds else []) none
        (context.toDto first.bodies userId thread none embeds row :
          MessageDto Ast Attachment Embed RichEmbed) =
      maskBlockedAuthor (if channel.type = .direct then blockedIds else []) none
        (context.toDto second.bodies userId thread none otherEmbeds (change row)) := by
  have bodies := rewording.bodies row present
  split
  · exact maskBlockedAuthor_eq
      (alike_toDto rewording.alikeRows bodies sameEmbeds rfl fun _ _ => rfl)
  next elsewhere =>
    rw [toDto_eq rewording.alikeRows bodies sameEmbeds
      (hidden.not_blocked elsewhere present ofChannel)]

/-- So does the message on its own. -/
theorem getOne_eq_of_rewording {member : WorkspaceMember}
    (rewording : Rewording (context.loadBlockedUserIds member.userId) first second change)
    (hidden : NothingExposed first.messages (context.loadBlockedUserIds member.userId) channel)
    (msgId : MessageId) :
    getOne context first member channel msgId =
      getOne context second member channel msgId := by
  rw [getOne, getOne, requireOne_reworded rewording.reworded rewording.rows]
  cases required : requireOne first.messages channel.id msgId (isAdminOrOwner member.role) with
  | error failure => rfl
  | ok row =>
    obtain ⟨present, -, ofChannel, -⟩ := requireOne_eq_ok_iff.mp required
    have masked := maskBlockedAuthor_eq_of_rewording context rewording hidden present
      ofChannel member.userId none (first.bodies row.id).embeds (second.bodies row.id).embeds
      fun notBlocked => congrArg StoredBody.embeds (rewording.bodies row present notBlocked)
    dsimp only [Except.map]
    rw [ok_bind, ok_bind, id_reworded rewording.reworded, createdAt_reworded rewording.reworded]
    split
    next direct =>
      rw [if_pos direct] at masked
      rw [masked]
    next elsewhere =>
      rw [if_neg elsewhere, maskBlockedAuthor_of_nobody, maskBlockedAuthor_of_nobody] at masked
      rw [masked]

/-- So does a thread of the channel. -/
theorem replies_eq_of_rewording {userId : UserId}
    (rewording : Rewording (context.loadBlockedUserIds userId) first second change)
    (found : context.db.channels.findUnique channel.id = some channel)
    (hidden : NothingExposed first.messages (context.loadBlockedUserIds userId) channel)
    {rootId : MessageId}
    (isOn : ∀ root ∈ first.messages, root.id = rootId → root.channelId = channel.id)
    (cursor : Option CursorPayload) (limit : Nat) :
    replies context first userId rootId cursor limit =
      replies context second userId rootId cursor limit := by
  have sameLive : (fun message : Message => message.deletedAt == none) ∘ change =
      fun message : Message => message.deletedAt == none := by
    funext row
    rw [Function.comp_apply, deletedAt_reworded rewording.reworded]
  rw [replies, replies,
    findUnique_reworded rewording.reworded rewording.rows, Option.filter_map, sameLive]
  cases isRoot : (first.messages.findUnique rootId).filter fun message =>
      message.deletedAt == none with
  | none => rfl
  | some message =>
    obtain ⟨rootFound, live⟩ := Option.filter_eq_some_iff.mp isRoot
    obtain ⟨present, sameId⟩ := MessageTable.findUnique_eq_some_iff.mp rootFound
    dsimp only [Option.map_some]
    rw [channelId_reworded rewording.reworded, isOn message present sameId, found]
    cases liveChannel : (some channel).filter fun channel => channel.deletedAt == none with
    | none => rfl
    | some other =>
      obtain rfl := Option.some.inj (Option.filter_eq_some_iff.mp liveChannel).1
      dsimp only
      refine congrArg _ (funext fun _ => congrArg _ (funext fun _ => ?_))
      rw [listThreadReplies_reworded rewording.reworded rewording.rows]
      cases answered : listThreadReplies context.timestamp first.messages _ with
      | error failure => rfl
      | ok page =>
        obtain ⟨⟨rootMem, -, rootChannel, -⟩, repliesMem⟩ := listThreadReplies_eq_ok answered
        have ofChannel : page.root.channelId = channel.id := rootChannel
        have sameRoot := maskBlockedAuthor_eq_of_rewording context rewording
          hidden rootMem ofChannel userId
          (context.aggregateThreadSummaries userId page.root.id) [] [] fun _ => rfl
        dsimp only [Except.map, ThreadPage.mapItems]
        rw [ok_bind, ok_bind, id_reworded rewording.reworded, sameRoot]
        congr 2
        rw [maskBlockedAuthors_eq_map, maskBlockedAuthors_eq_map, List.map_map, List.map_map,
          List.map_map]
        refine List.map_congr_left fun reply listed => ?_
        obtain ⟨replyMem, ofRoot, -⟩ := repliesMem reply listed
        exact maskBlockedAuthor_eq_of_rewording context rewording hidden replyMem
          ((first.repliesInChannel reply replyMem page.root rootMem ofRoot).trans ofChannel)
          userId none [] [] fun _ => rfl

end TwoStates

section OneState

variable {context : ReadContext Attachment RichEmbed} {blockedIds : List UserId}
  {state : ReadState Ast Embed} {row : Message}
  {rootAuthorByMessageId : Option (MessageId → Option UserId)} {userId : UserId}
  {thread : Option ThreadSummary} {excerpt : Option String} {embeds : List Embed}
  {dto : MessageDto Ast Attachment Embed RichEmbed} {channel : Channel}

/-- A message on the wire is a row, of which nothing is left if its author is blocked. -/
structure HidesBlocked (messages : MessageTable) (blockedIds : List UserId)
    (dto : MessageDto Ast Attachment Embed RichEmbed) (row : Message) : Prop where
  present : row ∈ messages
  sameId : dto.id = row.id
  sameAuthor : dto.authorId = row.authorId
  deleted : dto.deleted = row.deletedAt.isSome
  body : dto.authorId ∈ blockedIds → dto.toMessageBody = if dto.deleted then {} else blockedBody

theorem hidesBlocked_mask (present : row ∈ state.messages) :
    HidesBlocked state.messages blockedIds (maskBlockedAuthor blockedIds rootAuthorByMessageId
      (context.toDto state.bodies userId thread excerpt embeds row)) row := by
  have frame : (maskBlockedAuthor blockedIds rootAuthorByMessageId
      (context.toDto state.bodies userId thread excerpt embeds row)).toMessageFrame = _ :=
    toMessageFrame_maskBlockedAuthor
  refine ⟨present, congrArg MessageFrame.id frame, congrArg MessageFrame.authorId frame,
    congrArg MessageFrame.deleted frame, fun blocked => ?_⟩
  rw [frame] at blocked ⊢
  exact toMessageBody_maskBlockedAuthor blocked

theorem hidesBlocked_toDto (present : row ∈ state.messages)
    (notExposed : row.deletedAt = none → row.authorId ∉ blockedIds) :
    HidesBlocked state.messages blockedIds
      (context.toDto state.bodies userId thread excerpt embeds row :
        MessageDto Ast Attachment Embed RichEmbed) row := by
  refine ⟨present, rfl, rfl, rfl, fun blocked => ?_⟩
  have deleted : row.deletedAt.isSome = true := by
    rw [isSome_iff_ne_none]
    exact fun live => notExposed live blocked
  have isDeleted : (context.toDto state.bodies userId thread excerpt embeds row :
      MessageDto Ast Attachment Embed RichEmbed).deleted = true := deleted
  rw [if_pos isDeleted]
  exact (MessageDto.blank _ isDeleted).1

/-- The endpoints that mask in direct messages. -/
theorem hidesBlocked_channel (hidden : NothingExposed state.messages blockedIds channel)
    (present : row ∈ state.messages) (ofChannel : row.channelId = channel.id) :
    HidesBlocked state.messages blockedIds
      (maskBlockedAuthor (if channel.type = .direct then blockedIds else []) none
        (context.toDto state.bodies userId thread excerpt embeds row)) row := by
  split
  · exact hidesBlocked_mask present
  next elsewhere =>
    rw [maskBlockedAuthor_of_nobody]
    exact hidesBlocked_toDto present (hidden.not_blocked elsewhere present ofChannel)

variable {viewer : Viewer} {member : WorkspaceMember}

theorem canActivate_eq_ok {channelId : ChannelId}
    (opened : context.canActivate viewer channelId = .ok (member, channel)) :
    member.userId = viewer.userId ∧ channel.id = channelId ∧
      context.db.channels.findUnique channel.id = some channel := by
  obtain ⟨current, isMember, opened⟩ := bind_eq_ok.mp opened
  obtain ⟨other, isChannel, opened⟩ := bind_eq_ok.mp opened
  cases opened
  constructor
  · unfold currentMember at isMember
    split at isMember
    · exact absurd isMember failWith_ne_ok
    split at isMember
    · exact absurd isMember failWith_ne_ok
    next found =>
      cases isMember
      exact (congrArg Prod.snd (Table.findUnique_eq_some_iff.mp found).2)
  · unfold currentChannel at isChannel
    split at isChannel
    · exact absurd isChannel failWith_ne_ok
    next found =>
      obtain ⟨-, isChannel⟩ := check_bind_eq_ok.mp isChannel
      obtain ⟨-, isChannel⟩ := check_bind_eq_ok.mp isChannel
      obtain ⟨-, isChannel⟩ := check_bind_eq_ok.mp isChannel
      cases isChannel
      have present := (filter_eq_some_iff.mp found).1
      obtain ⟨-, sameId⟩ := Table.findUnique_eq_some_iff.mp present
      exact ⟨sameId, sameId ▸ present⟩

variable {channelId : ChannelId} {request : ReadRequest}
  {response : ReadResponse Ast Attachment Embed RichEmbed}

variable (opened : context.canActivate viewer channelId = .ok (member, channel))

include opened

variable (hidden : NothingExposed state.messages (context.loadBlockedUserIds viewer.userId) channel)

include hidden

/-- Every response hides blocked authors when nothing exposes them. -/
theorem hidesBlocked_respond (isOn : request.IsOn state.messages channelId)
    (answered : state.respond context viewer channelId request = .ok response)
    (mem : dto ∈ response.dtos) :
    ∃ row, HidesBlocked state.messages (context.loadBlockedUserIds viewer.userId) dto row := by
  obtain ⟨sameUser, rfl, found⟩ := canActivate_eq_ok opened
  cases request with
  | list query =>
    rw [respond, opened, ok_bind] at answered
    obtain ⟨page, isPage, rfl⟩ := map_eq_ok answered
    obtain ⟨-, isPage⟩ := check_bind_eq_ok.mp isPage
    obtain ⟨result, listed, isPage⟩ := bind_eq_ok.mp isPage
    cases isPage
    rw [maskBlockedAuthors_eq_map, List.map_map] at mem
    obtain ⟨row, rowMem, rfl⟩ := List.mem_map.mp mem
    rw [← sameUser]
    exact ⟨row, hidesBlocked_mask (list_maySee listed row rowMem).1⟩
  | listPins =>
    rw [respond, opened, ok_bind] at answered
    cases answered
    obtain ⟨row, rowMem, rfl⟩ := List.mem_map.mp mem
    exact ⟨row, hidesBlocked_toDto (mem_listPins rowMem).1 fun _ => hidden.not_pinned rowMem⟩
  | getOne msgId =>
    rw [respond, opened, ok_bind] at answered
    obtain ⟨message, isMessage, rfl⟩ := map_eq_ok answered
    obtain rfl := List.mem_singleton.mp mem
    obtain ⟨row, required, isMessage⟩ := bind_eq_ok.mp isMessage
    obtain ⟨present, -, ofChannel, -⟩ := requireOne_eq_ok_iff.mp required
    refine ⟨row, ?_⟩
    split at isMessage
    · obtain ⟨-, isMessage⟩ := check_bind_eq_ok.mp isMessage
      cases isMessage
      rw [← sameUser]
      exact hidesBlocked_mask present
    next elsewhere =>
      cases isMessage
      exact hidesBlocked_toDto present (hidden.not_blocked elsewhere present ofChannel)
  | thread rootId cursor limit =>
    obtain ⟨panel, isPanel, rfl⟩ := map_eq_ok answered
    unfold replies at isPanel
    split at isPanel
    · exact absurd isPanel failWith_ne_ok
    next message isRoot =>
      obtain ⟨rootFound, -⟩ := Option.filter_eq_some_iff.mp isRoot
      obtain ⟨messageMem, sameId⟩ := MessageTable.findUnique_eq_some_iff.mp rootFound
      rw [isOn message messageMem sameId, found] at isPanel
      split at isPanel
      · exact absurd isPanel failWith_ne_ok
      next other liveChannel =>
        obtain rfl := Option.some.inj (Option.filter_eq_some_iff.mp liveChannel).1
        obtain ⟨-, isPanel⟩ := check_bind_eq_ok.mp isPanel
        obtain ⟨-, isPanel⟩ := check_bind_eq_ok.mp isPanel
        obtain ⟨page, listed, isPanel⟩ := bind_eq_ok.mp isPanel
        cases isPanel
        obtain ⟨⟨rootMem, -, rootChannel, -⟩, repliesMem⟩ := listThreadReplies_eq_ok listed
        rcases List.mem_cons.mp mem with rfl | inReplies
        · exact ⟨page.root, hidesBlocked_channel hidden rootMem rootChannel⟩
        rw [maskBlockedAuthors_eq_map, List.map_map] at inReplies
        obtain ⟨reply, listedReply, rfl⟩ := List.mem_map.mp inReplies
        obtain ⟨replyMem, ofRoot, -⟩ := repliesMem reply listedReply
        exact ⟨reply, hidesBlocked_channel hidden replyMem
          ((state.repliesInChannel reply replyMem page.root rootMem ofRoot).trans rootChannel)⟩

/-- A message of the list has no more in another response. -/
theorem masked_of_nothingExposed {query : ListMessagesArgs}
    {page : ListMessagesResponse Ast Attachment Embed RichEmbed}
    (listing : state.respond context viewer channelId (.list query) = .ok (.list page))
    {listed : MessageDto Ast Attachment Embed RichEmbed} (listedMem : listed ∈ page.items)
    (blocked : listed.authorId ∈ context.loadBlockedUserIds viewer.userId)
    (isOn : request.IsOn state.messages channelId)
    (answered : state.respond context viewer channelId request = .ok response)
    (mem : dto ∈ response.dtos) (sameId : dto.id = listed.id) :
    dto.toMessageBody = listed.toMessageBody := by
  have isOnList : (ReadRequest.list query).IsOn state.messages channelId := trivial
  obtain ⟨listedRow, ofList⟩ := hidesBlocked_respond opened hidden isOnList listing listedMem
  obtain ⟨row, ofRow⟩ := hidesBlocked_respond opened hidden isOn answered mem
  have same : row = listedRow := Table.eq_of_key_eq ofRow.present ofList.present
    (ofRow.sameId.symm.trans (sameId.trans ofList.sameId))
  subst same
  have sameAuthor : dto.authorId = listed.authorId := ofRow.sameAuthor.trans ofList.sameAuthor.symm
  rw [ofRow.body (sameAuthor ▸ blocked), ofList.body blocked, ofRow.deleted, ofList.deleted]

end OneState

/-- Blocked authors say one word more. -/
def saysMore (blockedIds : List UserId) (row : Message) : Message :=
  if row.authorId ∈ blockedIds then { row with content := row.content ++ "!" } else row

theorem sameFrame_saysMore (blockedIds : List UserId) (row : Message) :
    SameFrame row (saysMore blockedIds row) := by
  unfold saysMore
  split <;> rfl

def ReadState.sayMore (state : ReadState Ast Embed) (blockedIds : List UserId) :
    ReadState Ast Embed where
  messages := state.messages.rewrite (saysMore blockedIds) fun row => by
    rw [saysMore]
    split <;> rfl
  repliesInChannel := by
    intro reply replyMem root rootMem ofRoot
    obtain ⟨oldReply, oldReplyMem, rfl⟩ := MessageTable.mem_rewrite.mp replyMem
    obtain ⟨oldRoot, oldRootMem, rfl⟩ := MessageTable.mem_rewrite.mp rootMem
    have reworded := sameFrame_saysMore blockedIds
    rw [parentMessageId_reworded reworded, id_reworded reworded] at ofRoot
    rw [channelId_reworded reworded, channelId_reworded reworded]
    exact state.repliesInChannel oldReply oldReplyMem oldRoot oldRootMem ofRoot
  bodies := state.bodies

section Exposure

variable {context : ReadContext Attachment RichEmbed} {blockedIds : List UserId}
  {state : ReadState Ast Embed} {row : Message} {userId : UserId} {thread : Option ThreadSummary}
  {excerpt : Option String} {embeds otherEmbeds : List Embed}

theorem alikeStates_sayMore : AlikeStates blockedIds state (state.sayMore blockedIds) := by
  refine ⟨?_, fun _ _ _ => rfl⟩
  refine forall₂_map_right_iff.mpr (forall₂_same.mpr fun row _ => ?_)
  exact ⟨sameFrame_saysMore blockedIds row, fun notBlocked => if_neg notBlocked⟩

/-- What a blocked author says more is on the wire, unmasked. -/
theorem toDto_saysMore_ne (live : row.deletedAt = none) (blocked : row.authorId ∈ blockedIds) :
    (context.toDto state.bodies userId thread excerpt embeds row :
        MessageDto Ast Attachment Embed RichEmbed) ≠
      context.toDto state.bodies userId thread excerpt otherEmbeds (saysMore blockedIds row) := by
  intro same
  have contents := congrArg MessageBody.content (congrArg MessageDto.toMessageBody same)
  rw [saysMore, if_pos blocked] at contents
  simp only [toDto, MessageRow.toDto, storedRow, live, isSome_none,
    Bool.false_eq_true, if_false, Option.some.injEq] at contents
  have lengths := congrArg String.length contents
  rw [String.length_append] at lengths
  exact absurd lengths (Nat.ne_of_lt (Nat.lt_succ_self _))

/-- Blocked authors are masked for a viewer of a channel exactly when nothing exposes them. -/
theorem blocked_masked_iff {viewer : Viewer} {channelId : ChannelId} {member : WorkspaceMember}
    {channel : Channel} (opened : context.canActivate viewer channelId = .ok (member, channel))
    (state : ReadState Ast Embed) :
    MasksBlocked context state viewer channelId ↔
      NothingExposed state.messages (context.loadBlockedUserIds viewer.userId) channel := by
  obtain ⟨sameUser, rfl, found⟩ := canActivate_eq_ok opened
  constructor
  · intro masks
    have sameAs := masks.alike _ alikeStates_sayMore
    unfold NothingExposed
    split
    · intro row listed blocked
      have same := sameAs .listPins trivial
      simp only [respond, opened, ok_bind, Except.ok.injEq, ReadResponse.listPins.injEq]
        at same
      have items := congrArg ListPinsResponse.items same
      have pins : listPins (state.sayMore (context.loadBlockedUserIds viewer.userId)).messages
          channel.id = (listPins state.messages channel.id).map
            (saysMore (context.loadBlockedUserIds viewer.userId)) :=
        listPins_reworded (sameFrame_saysMore _) rfl channel.id
      simp only [MessagesController.listPins, pins, List.map_map] at items
      exact toDto_saysMore_ne (mem_listPins listed).2.2 blocked
        (List.map_inj_left.mp items row listed)
    next elsewhere =>
      intro row present ofChannel live blocked
      have same := sameAs (.getOne row.id) trivial
      have required : ∀ includeDeleted,
          requireOne state.messages channel.id row.id includeDeleted = .ok row :=
        fun includeDeleted => requireOne_eq_ok_iff.mpr ⟨present, rfl, ofChannel, .inr live⟩
      have requiredMore : ∀ includeDeleted, requireOne (state.sayMore
          (context.loadBlockedUserIds viewer.userId)).messages channel.id row.id includeDeleted =
            .ok (saysMore (context.loadBlockedUserIds viewer.userId) row) := by
        intro includeDeleted
        rw [requireOne_reworded (sameFrame_saysMore _) rfl, required]
        rfl
      simp only [respond, opened, ok_bind, MessagesController.getOne, required,
        requiredMore, if_neg elsewhere] at same
      exact toDto_saysMore_ne live blocked (ReadResponse.getOne.inj (Except.ok.inj same))
  · intro hidden
    refine ⟨fun other alike request isOn => ?_, fun query page listing listed listedMem blocked
      request response isOn answered dto mem sameId =>
        masked_of_nothingExposed opened hidden listing listedMem blocked isOn answered mem sameId⟩
    obtain ⟨change, rewording⟩ := alike.exists_rewording
    cases request with
    | list query =>
      rw [respond, respond, opened, ok_bind, ok_bind]
      dsimp only
      rw [list_eq_of_rewording (sameUser.symm ▸ rewording)]
    | listPins =>
      rw [respond, respond, opened, ok_bind, ok_bind]
      dsimp only
      rw [listPins_eq_of_rewording rewording hidden]
    | getOne msgId =>
      rw [respond, respond, opened, ok_bind, ok_bind]
      dsimp only
      rw [getOne_eq_of_rewording (sameUser.symm ▸ rewording) (sameUser.symm ▸ hidden)]
    | thread rootId cursor limit =>
      rw [respond, respond, replies_eq_of_rewording rewording found hidden isOn cursor limit]

end Exposure

/-- A text channel, and a direct message of users 1 and 2. -/
def textLounge : Channel :=
  { id := ⟨1⟩, workspaceId := some ⟨1⟩, name := "lounge", position := 0, createdAt := 0 }

def directLounge : Channel :=
  { id := ⟨2⟩, workspaceId := none, name := "dm", type := .direct, position := 0,
    isPrivate := true, createdAt := 0 }

def mayRead : OverrideMask where
  value := Permission.read.toNat
  within := by decide

/-- User 1 has blocked user 2. -/
def loungeContext : ReadContext Unit Unit where
  timestamp := fun _ => none
  db :=
    { Database.withoutRoles
        { rows := [⟨⟨1⟩, ⟨1⟩, .member⟩, ⟨⟨1⟩, ⟨2⟩, .member⟩], keysNodup := by decide }
        { rows := [textLounge, directLounge], keysNodup := by decide }
        (.single { channelId := ⟨2⟩, principal := .user ⟨1⟩, allowMask := mayRead }) with
      workspaces := .single { id := ⟨1⟩ } }
  friendships := .single { requesterId := ⟨1⟩, addresseeId := ⟨2⟩, status := .blocked }

def loungeViewer : Viewer := { userId := ⟨1⟩, workspaceId := ⟨1⟩ }

/-- One message of user 2. -/
def loungeState (channelId : ChannelId) (content : String) : ReadState Unit Unit where
  messages := .single
    { id := ⟨1⟩, channelId := channelId, authorId := ⟨2⟩, content := content, createdAt := 1 } rfl
  repliesInChannel := by
    intro reply replyMem root rootMem _
    rw [Table.mem_single.mp replyMem, Table.mem_single.mp rootMem]
  bodies := fun _ => {}

/-- In the direct message the blocked author stays masked. -/
theorem direct_blocked_masked :
    loungeContext.canActivate loungeViewer ⟨2⟩ = .ok (⟨⟨1⟩, ⟨1⟩, .member⟩, directLounge) ∧
      MasksBlocked loungeContext (loungeState ⟨2⟩ "hello") loungeViewer ⟨2⟩ := by
  have opened : loungeContext.canActivate loungeViewer ⟨2⟩ =
      .ok (⟨⟨1⟩, ⟨1⟩, .member⟩, directLounge) := by
    decide +kernel
  refine ⟨opened, (blocked_masked_iff opened _).mpr ?_⟩
  have isDirect : directLounge.type = .direct := rfl
  rw [NothingExposed, if_pos isDirect]
  have noPins : listPins (loungeState ⟨2⟩ "hello").messages directLounge.id = [] := by
    decide +kernel
  rw [noPins]
  exact forall_mem_nil _

/-- What a response says of its first message. -/
def firstContent (answer : Except Failure (ReadResponse Unit Unit Unit Unit)) : Option String :=
  answer.toOption.bind fun response => response.dtos.head?.bind (·.content)

/-- In the text channel the list masks the message of the blocked author, and the message on its
own is there to read. -/
theorem masked_message_read_alone :
    firstContent ((loungeState ⟨1⟩ "hello").respond loungeContext loungeViewer ⟨1⟩
        (.list { channelId := ⟨1⟩, limit := 50 })) = some blockedMessagePlaceholder ∧
      firstContent ((loungeState ⟨1⟩ "hello").respond loungeContext loungeViewer ⟨1⟩
        (.getOne ⟨1⟩)) = some "hello" ∧
      ¬MasksBlocked loungeContext (loungeState ⟨1⟩ "hello") loungeViewer ⟨1⟩ := by
  have alone : ∀ content, firstContent ((loungeState ⟨1⟩ content).respond loungeContext loungeViewer
      ⟨1⟩ (.getOne ⟨1⟩)) = some content := by
    intro content
    rfl
  refine ⟨by decide +kernel, alone "hello", fun masks => ?_⟩
  have alike : AlikeStates [⟨2⟩] (loungeState ⟨1⟩ "hello") (loungeState ⟨1⟩ "bye") := by
    refine ⟨.cons ⟨rfl, fun notBlocked => ?_⟩ .nil, fun _ _ _ => rfl⟩
    exact absurd (mem_singleton_self _) notBlocked
  have same := congrArg firstContent
    (masks.alike (loungeState ⟨1⟩ "bye") alike (.getOne ⟨1⟩) trivial)
  rw [alone, alone] at same
  exact absurd same (by decide)

end Bongtalk.Messages
