import Bongtalk.Messages.Endpoints

/-!
# Reworded messages

The queries of the reading endpoints select and sort rows by their other columns. On messages that
say something else they find the same rows, reworded.
-/

namespace Bongtalk.Messages

open Library Common Prisma List Function Option

/-- Two rows that are the same but for what they say. -/
def SameFrame (first second : Message) : Prop :=
  { first with
    content := second.content
    contentPlain := second.contentPlain
    mentions := second.mentions } = second

variable {change : Message → Message}

section Columns

variable (reworded : ∀ row, SameFrame row (change row)) (row : Message)

include reworded

theorem id_reworded : (change row).id = row.id := by
  rw [← reworded row]

theorem channelId_reworded : (change row).channelId = row.channelId := by
  rw [← reworded row]

theorem authorId_reworded : (change row).authorId = row.authorId := by
  rw [← reworded row]

theorem parentMessageId_reworded : (change row).parentMessageId = row.parentMessageId := by
  rw [← reworded row]

theorem isBroadcast_reworded : (change row).isBroadcast = row.isBroadcast := by
  rw [← reworded row]

theorem replyCount_reworded : (change row).replyCount = row.replyCount := by
  rw [← reworded row]

theorem pinnedAt_reworded : (change row).pinnedAt = row.pinnedAt := by
  rw [← reworded row]

theorem deletedAt_reworded : (change row).deletedAt = row.deletedAt := by
  rw [← reworded row]

theorem createdAt_reworded : (change row).createdAt = row.createdAt := by
  rw [← reworded row]

theorem position_reworded : (change row).position = row.position := by
  rw [← reworded row]
  rfl

theorem shows_reworded (args : RawListArgs) : args.shows (change row) = args.shows row := by
  simp only [RawListArgs.shows, channelId_reworded reworded, parentMessageId_reworded reworded,
    isBroadcast_reworded reworded, deletedAt_reworded reworded, replyCount_reworded reworded,
    createdAt_reworded reworded]

theorem cursorFor_reworded : cursorFor (change row) = cursorFor row := by
  simp only [cursorFor, id_reworded reworded, createdAt_reworded reworded]

end Columns

section Queries

variable {first second : MessageTable} {timestamp : List Char → Option Int}

/-- A condition on the other columns selects the same rows. -/
theorem findMany_reworded (rows : second.table.rows = first.table.rows.map change)
    {condition : Message → Bool} (same : ∀ row, condition (change row) = condition row) :
    second.table.findMany condition = (first.table.findMany condition).map change := by
  rw [Table.findMany, Table.findMany, rows, List.filter_map]
  exact congrArg (List.map change) (List.filter_congr fun row _ => same row)

section

variable (reworded : ∀ row, SameFrame row (change row))

include reworded

theorem newestFirst_map (rows : List Message) :
    newestFirst (rows.map change) = (newestFirst rows).map change := by
  refine (map_insertionSort _ _ change rows fun row _ other _ => ?_).symm
  rw [position_reworded reworded, position_reworded reworded]

theorem oldestFirst_map (rows : List Message) :
    oldestFirst (rows.map change) = (oldestFirst rows).map change := by
  refine (map_insertionSort _ _ change rows fun row _ other _ => ?_).symm
  rw [position_reworded reworded, position_reworded reworded]

theorem latestPinFirst_map (rows : List Message) :
    latestPinFirst (rows.map change) = (latestPinFirst rows).map change := by
  refine (map_insertionSort _ _ change rows fun row _ other _ => ?_).symm
  rw [pinnedAt_reworded reworded, pinnedAt_reworded reworded]

theorem orderBy_map (direction : Direction) (rows : List Message) :
    orderBy direction (rows.map change) = (orderBy direction rows).map change := by
  cases direction with
  | before => exact newestFirst_map reworded rows
  | after => exact oldestFirst_map reworded rows

end

variable (reworded : ∀ row, SameFrame row (change row))
  (rows : second.table.rows = first.table.rows.map change)

include reworded rows

variable (request : ListMessagesArgs) (id : MessageId) (channelId : ChannelId)

theorem findUnique_reworded : second.findUnique id = (first.findUnique id).map change := by
  rw [MessageTable.findUnique, MessageTable.findUnique, Table.findUnique, Table.findUnique, rows,
    List.find?_map]
  congr 2
  funext row
  rw [comp_apply, id_reworded reworded]

theorem rawList_reworded (args : RawListArgs) :
    rawList timestamp second args = (rawList timestamp first args).map (List.map change) := by
  have bySql : ∀ cursorSql : Message → Bool, args.cursorSql timestamp = .ok cursorSql →
      ∀ row, cursorSql (change row) = cursorSql row := by
    intro cursorSql isSql row
    unfold RawListArgs.cursorSql at isSql
    split at isSql
    · cases isSql
      rfl
    · obtain ⟨cursor, -, isSql⟩ := bind_eq_ok.mp isSql
      cases isSql
      dsimp only
      rw [position_reworded reworded]
  rw [rawList, rawList]
  cases isSql : args.cursorSql timestamp with
  | error failure => rfl
  | ok cursorSql =>
    rw [ok_bind, ok_bind]
    have selected : second.table.findMany (fun message => args.shows message &&
        cursorSql message) = (first.table.findMany fun message => args.shows message &&
          cursorSql message).map change :=
      findMany_reworded rows fun row => by
        rw [shows_reworded reworded, bySql cursorSql isSql]
    dsimp only
    rw [selected, orderBy_map reworded, ← map_take]
    cases args.direction with
    | before => rfl
    | after =>
      rw [← map_reverse]
      rfl

theorem findAnchor_reworded :
    findAnchor second request id = (findAnchor first request id).map change := by
  rw [findAnchor, findAnchor, rows, List.find?_map]
  congr 2
  funext row
  rw [comp_apply, id_reworded reworded, channelId_reworded reworded, createdAt_reworded reworded]

omit rows in
theorem setById_map (byId : List Message) (row : Message) :
    setById (byId.map change) (change row) = (setById byId row).map change := by
  have sameId : ∀ old : Message, ((change old).id == (change row).id) = (old.id == row.id) := by
    intro old
    rw [id_reworded reworded, id_reworded reworded]
  rw [setById, setById, List.any_map]
  have present : byId.any ((fun old => old.id == (change row).id) ∘ change) =
      byId.any fun old => old.id == row.id :=
    congrArg byId.any (funext sameId)
  rw [present]
  split
  · rw [List.map_map, List.map_map]
    refine List.map_congr_left fun old _ => ?_
    simp only [Function.comp_apply, id_reworded reworded]
    split <;> rfl
  · rw [List.map_append, List.map_singleton]

omit rows in
theorem foldl_setById_map (added byId : List Message) :
    (added.map change).foldl setById (byId.map change) = (added.foldl setById byId).map change := by
  induction added generalizing byId with
  | nil => rfl
  | cons row added ih =>
    rw [map_cons, foldl_cons, foldl_cons, setById_map reworded, ih]

/-- A page of reworded rows. -/
def MessagePage.mapItems (change : Message → Message) (page : MessagePage) : MessagePage :=
  { page with items := page.items.map change }

omit rows in
theorem messagePage_map (items : List Message) (hasMore : Bool) :
    messagePage (items.map change) hasMore = (messagePage items hasMore).mapItems change := by
  have cursors : cursorFor ∘ change = cursorFor := funext (cursorFor_reworded reworded)
  rw [messagePage, messagePage, MessagePage.mapItems, List.head?_map, List.getLast?_map,
    Option.map_map, Option.map_map, cursors]

theorem listAround_reworded :
    listAround timestamp second request id =
      (listAround timestamp first request id).map (MessagePage.mapItems change) := by
  rw [listAround, listAround, findAnchor_reworded reworded rows]
  cases findAnchor first request id with
  | none => rfl
  | some anchor =>
    dsimp only [map_some]
    rw [id_reworded reworded, createdAt_reworded reworded, rawList_reworded reworded rows,
      rawList_reworded reworded rows]
    cases rawList timestamp first (request.rawArgs .before (some _) true _) with
    | error failure => rfl
    | ok older =>
      cases rawList timestamp first (request.rawArgs .after (some _) false _) with
      | error failure => rfl
      | ok newer =>
        dsimp only [Except.map, ok_bind]
        rw [← map_append]
        have merged := foldl_setById_map reworded (older ++ newer) []
        rw [map_nil] at merged
        rw [merged, newestFirst_map reworded, messagePage_map reworded]

theorem listPage_reworded (before after : Option (List Char)) :
    listPage timestamp second request before after =
      (listPage timestamp first request before after).map (MessagePage.mapItems change) := by
  rw [listPage, listPage]
  cases (before.orElse fun _ => after).mapM decodeCursor with
  | error failure => rfl
  | ok cursor =>
    rw [ok_bind, ok_bind, rawList_reworded reworded rows]
    cases rawList timestamp first _ with
    | error failure => rfl
    | ok fetched =>
      dsimp only [Except.map]
      rw [ok_bind, ok_bind, length_map, ← map_drop, ← map_take, ← apply_ite,
        messagePage_map reworded]

/-- A page of the channel has the same rows, reworded. -/
theorem list_reworded :
    list timestamp second request =
      (list timestamp first request).map (MessagePage.mapItems change) := by
  unfold list
  dsimp only
  split
  · rfl
  split
  · exact listAround_reworded reworded rows request _
  · exact listPage_reworded reworded rows request _ _

theorem listPins_reworded : listPins second channelId = (listPins first channelId).map change := by
  have selected : second.table.findMany (fun message => message.channelId == channelId &&
      message.pinnedAt.isSome && message.deletedAt == none) = (first.table.findMany fun message =>
        message.channelId == channelId && message.pinnedAt.isSome &&
          message.deletedAt == none).map change :=
    findMany_reworded rows fun row => by
      rw [channelId_reworded reworded, pinnedAt_reworded reworded, deletedAt_reworded reworded]
  rw [listPins, listPins, selected, latestPinFirst_map reworded, map_take]

theorem requireOne_reworded (msgId : MessageId) (includeDeleted : Bool) :
    requireOne second channelId msgId includeDeleted =
      (requireOne first channelId msgId includeDeleted).map change := by
  have same : (fun message : Message => message.channelId == channelId &&
      (includeDeleted || message.deletedAt == none)) ∘ change = fun message : Message =>
        message.channelId == channelId && (includeDeleted || message.deletedAt == none) := by
    funext row
    rw [Function.comp_apply, channelId_reworded reworded, deletedAt_reworded reworded]
  rw [requireOne, requireOne, findUnique_reworded reworded rows, Option.filter_map, same]
  cases (first.findUnique msgId).filter _ with
  | none => rfl
  | some row => rfl

/-- A thread page of reworded rows. -/
def ThreadPage.mapItems (change : Message → Message) (page : ThreadPage) : ThreadPage :=
  { page with
    root := change page.root
    items := page.items.map change }

theorem listThreadReplies_reworded (args : ListThreadRepliesArgs) :
    listThreadReplies timestamp second args =
      (listThreadReplies timestamp first args).map (ThreadPage.mapItems change) := by
  have sameRoot : (fun root : Message => root.channelId == args.channelId &&
      root.deletedAt == none) ∘ change = fun root : Message => root.channelId == args.channelId &&
        root.deletedAt == none := by
    funext row
    rw [Function.comp_apply, channelId_reworded reworded, deletedAt_reworded reworded]
  have root : findThreadRoot second args = (findThreadRoot first args).map change := by
    rw [findThreadRoot, findThreadRoot, findUnique_reworded reworded rows, Option.filter_map,
      sameRoot]
  have bySql : ∀ cursorSql : Message → Bool, args.cursorSql timestamp = .ok cursorSql →
      ∀ row, cursorSql (change row) = cursorSql row := by
    intro cursorSql isSql row
    unfold ListThreadRepliesArgs.cursorSql at isSql
    split at isSql
    · cases isSql
      rfl
    · obtain ⟨cursor, -, isSql⟩ := bind_eq_ok.mp isSql
      cases isSql
      dsimp only
      rw [position_reworded reworded]
  rw [listThreadReplies, listThreadReplies, root]
  cases findThreadRoot first args with
  | none => rfl
  | some found =>
    dsimp only [Option.map_some]
    rw [parentMessageId_reworded reworded]
    split
    · rfl
    cases isSql : args.cursorSql timestamp with
    | error failure => rfl
    | ok cursorSql =>
      rw [ok_bind, ok_bind]
      have selected : second.table.findMany (fun message =>
          isThreadReply args.rootId message && cursorSql message) =
            (first.table.findMany fun message =>
              isThreadReply args.rootId message && cursorSql message).map change :=
        findMany_reworded rows fun row => by
          rw [isThreadReply, isThreadReply, parentMessageId_reworded reworded,
            isBroadcast_reworded reworded, bySql cursorSql isSql]
      rw [selected, oldestFirst_map reworded, ← List.map_take, ← List.map_take,
        List.length_map, List.head?_map, List.getLast?_map]
      have ends : (fun row : Message => (row.createdAt, row.id)) ∘ change =
          fun row : Message => (row.createdAt, row.id) := by
        funext row
        rw [Function.comp_apply, createdAt_reworded reworded, id_reworded reworded]
      rw [Option.map_map, Option.map_map, ends]
      rfl

theorem broadcastRoot_reworded (row : Message) :
    broadcastRoot second (change row) = (broadcastRoot first row).map change := by
  rw [broadcastRoot, broadcastRoot, parentMessageId_reworded reworded]
  cases row.parentMessageId with
  | none => rfl
  | some rootId =>
    have same : (fun root : Message => root.channelId == (change row).channelId &&
        root.deletedAt == none) ∘ change = fun root : Message =>
          root.channelId == row.channelId && root.deletedAt == none := by
      funext root
      rw [Function.comp_apply, channelId_reworded reworded, channelId_reworded reworded,
        deletedAt_reworded reworded]
    rw [Option.bind_some, Option.bind_some, findUnique_reworded reworded rows,
      Option.filter_map, same]

end Queries

end Bongtalk.Messages
