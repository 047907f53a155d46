import Mathlib.Algebra.Order.BigOperators.Group.List
import Mathlib.Data.List.TakeWhile
import Bongtalk.Shared.MrkdwnParser

/-!
# The parser and the schema

The parser keeps every bound of the schema but one: the language of a fence may be as long as
its line.
-/

namespace Bongtalk.Shared

open Library RichTextNode Counting Measure List Option

theorem utf16Length_le_of_sublist {text other : List Char} (sublist : text.Sublist other) :
    utf16Length text ≤ utf16Length other :=
  (sublist.map utf16Units).sum_le_sum fun _ _ => Nat.zero_le _

theorem utf16Length_pos {text : List Char} (nonempty : text ≠ []) : 1 ≤ utf16Length text := by
  cases text with
  | nil => exact absurd rfl nonempty
  | cons char rest =>
    rw [utf16Length, map_cons, sum_cons, utf16Units]
    split <;> omega

theorem trim_sublist (text : List Char) : (trim text).Sublist text := by
  have right : ((text.dropWhile isWhitespace).reverse.dropWhile isWhitespace).reverse.Sublist
      (text.dropWhile isWhitespace) := by
    have dropped := (dropWhile_sublist (l := (text.dropWhile isWhitespace).reverse)
      isWhitespace).reverse
    rwa [reverse_reverse] at dropped
  exact right.trans (dropWhile_sublist isWhitespace)

/-- A text without blanks is not trimmed. -/
theorem trim_eq_self {text : List Char} (solid : ∀ char ∈ text, isWhitespace char = false) :
    trim text = text := by
  have kept : ∀ part : List Char, (∀ char ∈ part, isWhitespace char = false) →
      part.dropWhile isWhitespace = part := by
    intro part partSolid
    cases part with
    | nil => rfl
    | cons char rest =>
      rw [dropWhile_cons_of_neg]
      simp [partSolid char mem_cons_self]
  rw [trim, kept text solid, kept text.reverse, reverse_reverse]
  exact fun char charMem => solid char (mem_reverse.mp charMem)

/-- Names within the bounds of the schema. -/
structure MentionLabelResolvers.Bounded (labels : MentionLabelResolvers) : Prop where
  user : ∀ id name, labels.user id = some name → 1 ≤ utf16Length name ∧ utf16Length name ≤ 100
  channel : ∀ id name, labels.channel id = some name → 1 ≤ utf16Length name ∧ utf16Length name ≤ 100
  role : ∀ id name, labels.role id = some name → 1 ≤ utf16Length name ∧ utf16Length name ≤ 100

theorem isLabel_resolveLabel {resolver : List Char → Option (List Char)} (id : List Char)
    (bounded : ∀ id name, resolver id = some name → 1 ≤ utf16Length name ∧ utf16Length name ≤ 100) :
    isLabel (resolveLabel resolver id) = true := by
  rw [isLabel, Option.all_eq_true]
  intro label isLabel
  obtain ⟨trimmed, nonempty⟩ := Option.filter_eq_some_iff.mp isLabel
  obtain ⟨name, named, rfl⟩ := Option.map_eq_some_iff.mp trimmed
  have positive := utf16Length_pos (of_decide_eq_true nonempty)
  have short := utf16Length_le_of_sublist (trim_sublist name)
  have bound := (bounded id name named).2
  simp only [Bool.and_eq_true, decide_eq_true_eq]
  omega

theorem isHexChar_toLower {char : Char} (hex : isHexChar char = true) :
    isHexChar char.toLower = true := by
  have notUpper : ¬(char.val ≥ 'A'.val ∧ char.val ≤ 'Z'.val) := by
    simp only [isHexChar, Char.isDigit, Bool.or_eq_true, Bool.and_eq_true, decide_eq_true_eq,
      Char.le_def, UInt32.le_iff_toNat_le, ge_iff_le] at hex ⊢
    simp only [Char.reduceVal, UInt32.reduceToNat] at hex ⊢
    omega
  have same : char.toLower = char := dif_neg notUpper
  rwa [same]

/-- The groups of the parser's pattern are groups of the schema's. -/
theorem isUuid_of_shape {text : List Char} (shape : hasUuidShape isHexChar text = true) :
    isUuid text = true := by
  rw [isUuid, hasUuidShape, Bool.and_eq_true, List.all_eq_true] at *
  refine ⟨shape.1, fun entry entryMem => ?_⟩
  have isGroup := shape.2 entry entryMem
  dsimp only at isGroup ⊢
  split
  next hyphen => rwa [if_pos hyphen] at isGroup
  next digit =>
    rw [if_neg digit] at isGroup
    exact isHexChar_toLower isGroup

theorem isMentionId_of_match {closing : Char} {text id : List Char}
    (matched : matchMentionId closing text = some id) : isMentionId id = true := by
  unfold matchMentionId at matched
  dsimp only at matched
  split at matched
  next uuid =>
    cases matched
    rw [isMentionId, isUuid_of_shape (Bool.and_eq_true_iff.mp uuid).1, Bool.true_or]
  next =>
    split at matched
    next cuid =>
      cases matched
      have long := (Bool.and_eq_true_iff.mp cuid).1
      rw [isMentionId, isCuid2, long, all_takeWhile, Bool.true_and, Bool.or_true]
    next => cases matched

theorem isMentionId_of_matchMention {sigil text id : List Char} {closing : Char} {length : Nat}
    (matched : matchMention sigil closing text = some (id, length)) : isMentionId id = true := by
  unfold matchMention at matched
  split at matched
  · obtain ⟨found, foundEq, same⟩ := map_eq_some_iff.mp matched
    cases same
    exact isMentionId_of_match foundEq
  · cases matched

/-- An address that is matched without a label has a safe scheme. -/
theorem isSafeLinkUrl_of_matchUrl {text url : List Char} (matched : matchUrl text = some url) :
    isSafeLinkUrl url = true := by
  obtain ⟨scheme, schemeFound, pathFound⟩ := bind_eq_some_iff.mp matched
  dsimp only at pathFound
  split at pathFound
  next =>
    cases pathFound
    have schemes := mem_of_find?_eq_some schemeFound
    generalize pathEq :
      ((((text.drop scheme.length).takeWhile isUrlChar).reverse.dropWhile isUrlTrailing).reverse) =
        path
    have pathSolid : ∀ char ∈ path, isWhitespace char = false := by
      intro char charMem
      rw [← pathEq, mem_reverse] at charMem
      have inRun := mem_reverse.mp ((dropWhile_sublist isUrlTrailing).subset charMem)
      have urlChar := mem_takeWhile_imp inRun
      simp only [isUrlChar, Bool.not_eq_true', Bool.or_eq_false_iff] at urlChar
      exact urlChar.1.1
    have schemeSolid : ∀ char ∈ scheme, isWhitespace char = false := by
      have secure : "https://".toList.all (fun char => !isWhitespace char) = true := by decide
      have plain : "http://".toList.all (fun char => !isWhitespace char) = true := by decide
      have solid : scheme.all (fun char => !isWhitespace char) = true := by
        simp only [mem_cons, not_mem_nil, or_false] at schemes
        obtain rfl | rfl := schemes
        · exact secure
        · exact plain
      intro char charMem
      simpa using all_eq_true.mp solid char charMem
    have trimmed : trim (scheme ++ path) = scheme ++ path := by
      apply trim_eq_self
      intro char charMem
      rcases mem_append.mp charMem with inScheme | inPath
      · exact schemeSolid char inScheme
      · exact pathSolid char inPath
    have safe : hasSafeScheme (scheme ++ path) = true := by
      simp only [mem_cons, not_mem_nil, or_false] at schemes
      rcases schemes with rfl | rfl <;> rfl
    have nonempty : scheme ++ path ≠ [] := by
      simp only [mem_cons, not_mem_nil, or_false] at schemes
      rcases schemes with rfl | rfl <;> exact cons_ne_nil _ _
    simp only [isSafeLinkUrl, trimmed, if_neg nonempty, safe, ite_self]
  next => cases pathFound

/-- Every token that is a node keeps the bounds of the schema. -/
theorem accepted_of_nextToken {labels : MentionLabelResolvers} (bounded : labels.Bounded)
    {text : List Char} {node : InlineNode} {length : Nat}
    (token : nextToken labels text = some (.node node length)) : node.accepted = true := by
  unfold nextToken at token
  split at token
  next id _ matched =>
    cases token
    rw [InlineNode.accepted, isMentionId_of_matchMention matched,
      isLabel_resolveLabel id bounded.user, Bool.true_and]
  split at token
  next id _ matched =>
    cases token
    rw [InlineNode.accepted, isMentionId_of_matchMention matched,
      isLabel_resolveLabel id bounded.channel, Bool.true_and]
  split at token
  next id _ matched =>
    cases token
    rw [InlineNode.accepted, isMentionId_of_matchMention matched,
      isLabel_resolveLabel id bounded.role, Bool.true_and]
  split at token
  next label url _ _ =>
    have link := Option.some.inj token
    unfold linkToken at link
    split at link
    next safe =>
      cases link
      exact safe
    next => cases link
  split at token
  next url matched =>
    cases token
    exact isSafeLinkUrl_of_matchUrl matched
  split at token
  next marker _ =>
    obtain ⟨inner, -, same⟩ := map_eq_some_iff.mp token
    cases same
  next => cases token

section Inline

variable {labels : MentionLabelResolvers}

/-- Inline nodes that were counted and that the schema accepts. -/
def MakesInline (made : Scan (List InlineNode)) : Prop :=
  Makes maxNodes List.length (fun nodes => nodes.all InlineNode.accepted = true) made

theorem makes_bumpNode : Makes maxNodes (fun _ => 1) (fun _ => True) bumpNode :=
  makes_bump

/-- A counted text. -/
theorem makesInline_text (text : List Char) (marks : List TextMark) :
    MakesInline (do bumpNode; pure [.text text marks]) := by
  intro count nodes next made
  obtain ⟨_, middle, bumped, returned⟩ := bind_eq_ok.mp made
  obtain ⟨rfl, rfl⟩ := pure_eq_ok.mp returned
  obtain ⟨-, counted, within⟩ := makes_bumpNode count _ middle bumped
  exact ⟨rfl, counted, within⟩

theorem makesInline_flush (marks : List TextMark) (buf : List Char) :
    MakesInline (flush marks buf) := by
  unfold flush
  split
  · exact makes_pure rfl rfl
  · exact makesInline_text buf marks

variable {nested : List TextMark → List Char → Scan (List InlineNode)}

theorem makesInline_spanNodes (inner : ∀ marks text, MakesInline (nested marks text))
    (marks : List TextMark) (mark : TextMark) (text : List Char) :
    MakesInline (spanNodes nested marks mark text) := by
  unfold spanNodes
  split
  · exact makesInline_text text _
  · exact inner _ text

/-- A run makes what its tokens and the runs inside of its markers make. -/
theorem makesInline_scanRun (bounded : labels.Bounded)
    (inner : ∀ marks text, MakesInline (nested marks text)) (marks : List TextMark)
    (text : List Char) (skip : Nat) (buf : List Char) :
    MakesInline (scanRun labels nested marks skip buf text) := by
  induction text generalizing skip buf with
  | nil =>
    cases skip <;> exact makesInline_flush marks buf
  | cons char rest ih =>
    cases skip with
    | succ skip => exact ih skip buf
    | zero =>
      rw [scanRun]
      split
      · exact ih 0 (buf ++ [char])
      · exact ih _ _
      next node length token =>
        intro count nodes next made
        obtain ⟨before, flushed, flushedOk, afterFlush⟩ := bind_eq_ok.mp made
        obtain ⟨_, bumped, bumpedOk, afterBump⟩ := bind_eq_ok.mp afterFlush
        obtain ⟨after, last, afterOk, returned⟩ := bind_eq_ok.mp afterBump
        obtain ⟨rfl, rfl⟩ := pure_eq_ok.mp returned
        obtain ⟨goodBefore, countBefore, withinBefore⟩ :=
          makesInline_flush marks buf count before flushed flushedOk
        obtain ⟨-, countNode, withinNode⟩ := makes_bumpNode flushed _ bumped bumpedOk
        obtain ⟨goodAfter, countAfter, withinAfter⟩ :=
          ih _ _ bumped after last afterOk
        refine ⟨?_, ?_, fun start => withinAfter (withinNode (withinBefore start))⟩
        · dsimp only at goodBefore goodAfter ⊢
          rw [all_append, all_cons, goodBefore, goodAfter, accepted_of_nextToken bounded token]
          rfl
        · dsimp only at countNode
          rw [length_append, length_cons]
          omega
      next marker text _ =>
        intro count nodes next made
        obtain ⟨before, flushed, flushedOk, afterFlush⟩ := bind_eq_ok.mp made
        obtain ⟨inside, spanned, insideOk, afterSpan⟩ := bind_eq_ok.mp afterFlush
        obtain ⟨after, last, afterOk, returned⟩ := bind_eq_ok.mp afterSpan
        obtain ⟨rfl, rfl⟩ := pure_eq_ok.mp returned
        obtain ⟨goodBefore, countBefore, withinBefore⟩ :=
          makesInline_flush marks buf count before flushed flushedOk
        obtain ⟨goodInside, countInside, withinInside⟩ :=
          makesInline_spanNodes inner marks marker.mark text flushed inside spanned insideOk
        obtain ⟨goodAfter, countAfter, withinAfter⟩ :=
          ih _ _ spanned after last afterOk
        refine ⟨?_, ?_, fun start => withinAfter (withinInside (withinBefore start))⟩
        · dsimp only at goodBefore goodInside goodAfter ⊢
          rw [all_append, all_append, goodBefore, goodInside, goodAfter]
          rfl
        · rw [length_append, length_append]
          omega

theorem makesInline_parseInlineRun (bounded : labels.Bounded) (levels : Nat)
    (marks : List TextMark) (text : List Char) :
    MakesInline (parseInlineRun labels levels marks text) := by
  induction levels generalizing marks text with
  | zero => exact makes_throw
  | succ levels ih =>
    exact makesInline_scanRun bounded ih marks text 0 []

theorem makesInline_parseInline (bounded : labels.Bounded) (text : List Char) :
    MakesInline (parseInline labels text) := by
  intro count nodes next made
  obtain ⟨_, middle, checked, parsed⟩ := bind_eq_ok.mp made
  have unchanged : count = middle := by
    unfold enforceInlineMarkerDepth at checked
    split at checked
    · exact absurd checked throw_ne_ok
    · exact (pure_eq_ok.mp checked).2
  obtain rfl := unchanged
  exact makesInline_parseInlineRun bounded _ _ text count nodes next parsed

end Inline

/-- The languages of the fences that lines open, from inside of a fence or from outside. -/
def fenceLanguages : Bool → List (List Char) → List (List Char)
  | _, [] => []
  | true, line :: rest => fenceLanguages (!closesFence line) rest
  | false, line :: rest =>
    match matchFence line with
    | some lang => lang :: fenceLanguages true rest
    | none => fenceLanguages false rest

/-- A fence starts with three backticks. -/
theorem matchFence_eq_none {char : Char} {rest : List Char} (other : char.toNat ≠ 0x60) :
    matchFence (char :: rest) = none := by
  have notPrefix : "```".toList.isPrefixOf (char :: rest) = false := by
    apply Bool.eq_false_iff.mpr
    intro isPrefix
    obtain ⟨tail, same⟩ := isPrefixOf_iff_prefix.mp isPrefix
    exact other (congrArg Char.toNat (List.cons.inj same).1.symm)
  unfold matchFence
  dsimp only
  rw [notPrefix, Bool.false_and, if_neg Bool.false_ne_true]

theorem isLevel_of_matchHeading {line text : List Char} {level : Nat}
    (matched : matchHeading line = some (level, text)) : [1, 2, 3].contains level = true := by
  obtain ⟨heading, same⟩ := ite_none_right_eq_some.mp matched
  cases same
  simp only [Bool.and_eq_true] at heading
  exact heading.1.1.1

theorem matchFence_eq_none_of_quote {line : List Char} (matched : (matchQuote line).isSome = true) :
    matchFence line = none := by
  unfold matchQuote at matched
  split at matched
  · exact matchFence_eq_none (by decide)
  · cases matched

theorem matchFence_eq_none_of_item {ordered : Bool} {line : List Char}
    (matched : (matchListItem ordered line).isSome = true) : matchFence line = none := by
  cases line with
  | nil =>
    cases ordered <;> exact absurd matched (by decide)
  | cons char rest =>
    apply matchFence_eq_none
    intro backtick
    obtain rfl : char = Char.ofNat 0x60 := Char.toNat_inj.mp backtick
    cases ordered with
    | true =>
      have digits : ((Char.ofNat 0x60 :: rest).takeWhile Char.isDigit).length = 0 := by
        rw [takeWhile_cons_of_neg (by decide)]
        rfl
      rw [matchListItem, if_pos rfl, matchOrdered, digits] at matched
      simp at matched
    | false =>
      rw [matchListItem, if_neg Bool.false_ne_true, matchUnordered, if_neg (by decide)] at matched
      cases matched

/-- Lines in front that open no fence may be left out. -/
theorem fenceLanguages_drop {taken : List Char → Bool}
    (none_of_taken : ∀ line, taken line = true → matchFence line = none)
    (lines : List (List Char)) :
    fenceLanguages false (lines.drop (lines.takeWhile taken).length) =
      fenceLanguages false lines := by
  induction lines with
  | nil => rfl
  | cons line rest ih =>
    cases takes : taken line with
    | false =>
      rw [takeWhile_cons_of_neg (by rw [takes]; exact Bool.false_ne_true)]
      rfl
    | true =>
      rw [takeWhile_cons_of_pos takes, length_cons, drop_succ_cons,
        ih, fenceLanguages, none_of_taken line takes]

/-- A fence goes on behind the line that closes it, or to the end. -/
theorem fenceLanguages_inside (lines : List (List Char)) :
    fenceLanguages true lines =
      fenceLanguages false (lines.drop ((lines.takeWhile (!closesFence ·)).length +
        if (lines.takeWhile (!closesFence ·)).length < lines.length then 1 else 0)) := by
  induction lines with
  | nil => rfl
  | cons line rest ih =>
    rw [fenceLanguages]
    cases closes : closesFence line with
    | true =>
      rw [takeWhile_cons_of_neg (by rw [closes]; exact Bool.false_ne_true)]
      rfl
    | false =>
      rw [takeWhile_cons_of_pos (by rw [closes]; rfl), length_cons, length_cons,
        Nat.add_right_comm, drop_succ_cons]
      simp only [Nat.add_lt_add_iff_right]
      exact ih

theorem length_matchedLines (pattern : List Char → Option (List Char)) (lines : List (List Char)) :
    (matchedLines pattern lines).length =
      (lines.takeWhile fun line => (pattern line).isSome).length := by
  rw [matchedLines, length_filterMap_eq_countP, countP_eq_length]
  intro line lineMem
  exact mem_takeWhile_imp (p := fun line => (pattern line).isSome) lineMem

section Trees

variable (nodes : List InlineNode)

theorem measureInline_depth : (measureInline nodes).depth ≤ 1 := by
  unfold measureInline
  dsimp only
  split <;> omega

/-- A block of inline nodes. -/
theorem depth_above : (measureInline nodes).above.depth ≤ 2 :=
  Nat.succ_le_succ (measureInline_depth nodes)

/-- Inline nodes among blocks measure what they measure in a block. -/
theorem measureAll_inline : RichTextNode.measureAll (nodes.map .inline) = measureInline nodes := by
  induction nodes with
  | nil => rfl
  | cons node rest ih =>
    rw [map_cons, RichTextNode.measureAll, ih]
    unfold measureInline RichTextNode.measure above nothing beside
    have shallow := measureInline_depth rest
    unfold measureInline at shallow
    simp only [length_cons, reduceCtorEq, if_false, Measure.mk.injEq]
    dsimp only at shallow
    omega

theorem allAccepted_inline : allAccepted (nodes.map .inline) = nodes.all InlineNode.accepted := by
  induction nodes with
  | nil => rfl
  | cons node rest ih =>
    rw [map_cons, allAccepted, accepted, ih, all_cons]

theorem measureItems_inline (items : List (List InlineNode)) :
    (measureItems (items.map fun nodes => nodes.map .inline)).count = (items.map List.length).sum ∧
      (measureItems (items.map fun nodes => nodes.map .inline)).depth ≤ 1 := by
  induction items with
  | nil => exact ⟨rfl, Nat.zero_le 1⟩
  | cons nodes rest ih =>
    obtain ⟨count, depth⟩ := ih
    have shallow := measureInline_depth nodes
    rw [map_cons, measureItems, measureAll_inline, map_cons, sum_cons]
    exact ⟨congrArg (nodes.length + ·) count, Nat.max_le.mpr ⟨shallow, depth⟩⟩

theorem itemsAccepted_inline {items : List (List InlineNode)}
    (accepted : ∀ nodes ∈ items, nodes.all InlineNode.accepted = true) :
    itemsAccepted (items.map fun nodes => nodes.map .inline) = true := by
  induction items with
  | nil => rfl
  | cons nodes rest ih =>
    obtain ⟨first, others⟩ := forall_mem_cons.mp accepted
    rw [map_cons, itemsAccepted, allAccepted_inline, first, ih others]
    rfl

theorem allAccepted_append (nodes others : List RichTextNode) :
    allAccepted (nodes ++ others) = (allAccepted nodes && allAccepted others) := by
  induction nodes with
  | nil => rfl
  | cons node rest ih =>
    rw [cons_append, allAccepted, ih, allAccepted, Bool.and_assoc]

theorem measureAll_append (nodes others : List RichTextNode) :
    measureAll (nodes ++ others) = (measureAll nodes).beside (measureAll others) := by
  induction nodes with
  | nil =>
    rw [nil_append, measureAll]
    unfold beside nothing
    simp
  | cons node rest ih =>
    rw [cons_append, measureAll, ih, measureAll]
    unfold beside
    simp only [Measure.mk.injEq]
    omega

end Trees

section Blocks

variable {labels : MentionLabelResolvers}

/-- The block that starts with a line keeps the bounds of the schema, up to the language of the
fence that the line opens. No other fence opens in the lines it takes. -/
structure BlockFits (line : List Char) (rest : List (List Char))
    (block : Option RichTextNode × Nat) : Prop where
  languages : fenceLanguages false (line :: rest) =
    (matchFence line).toList ++ fenceLanguages false (rest.drop (block.2 - 1))
  accepted : allAccepted block.1.toList = true ↔
    ∀ lang ∈ (matchFence line).toList, utf16Length lang ≤ 32
  depth : (measureAll block.1.toList).depth ≤ 2

theorem fits_fence {line lang : List Char} (fence : matchFence line = some lang)
    (code : List Char) (rest : List (List Char)) :
    BlockFits line rest (some (.codeBlock code (if lang = [] then none else some lang)),
      1 + (rest.takeWhile (!closesFence ·)).length +
        if (rest.takeWhile (!closesFence ·)).length < rest.length then 1 else 0) where
  languages := by
    rw [fenceLanguages, fence, fenceLanguages_inside, Nat.add_assoc, Nat.add_sub_cancel_left]
    rfl
  accepted := by
    rw [fence, toList_some, toList_some, forall_mem_singleton,
      RichTextNode.allAccepted, RichTextNode.accepted, RichTextNode.allAccepted, Bool.and_true]
    split
    next empty =>
      rw [empty]
      decide
    next => exact decide_eq_true_iff
  depth := by
    rw [toList_some, RichTextNode.measureAll, RichTextNode.measure, RichTextNode.measureAll]
    decide

/-- A block of lines that open no fence. -/
theorem fits_taken {line : List Char} {rest : List (List Char)} {node : Option RichTextNode}
    {taken : List Char → Bool} (none_of_taken : ∀ line, taken line = true → matchFence line = none)
    (takes : taken line = true) (accepted : allAccepted node.toList = true)
    (depth : (measureAll node.toList).depth ≤ 2) :
    BlockFits line rest (node, ((line :: rest).takeWhile taken).length) where
  languages := by
    have dropped := fenceLanguages_drop none_of_taken (line :: rest)
    rw [takeWhile_cons_of_pos takes, length_cons, drop_succ_cons] at dropped
    rw [none_of_taken line takes, takeWhile_cons_of_pos takes, length_cons,
      Nat.add_sub_cancel, ← dropped]
    rfl
  accepted := by
    rw [none_of_taken line takes, accepted]
    exact ⟨nofun, fun _ => rfl⟩
  depth := depth

theorem measure_single (node : RichTextNode) : measureAll (some node).toList = node.measure := by
  rw [toList_some, measureAll, measureAll]
  unfold beside nothing
  simp

theorem accepted_single (node : RichTextNode) : allAccepted (some node).toList = node.accepted := by
  rw [toList_some, allAccepted, allAccepted, Bool.and_true]

theorem makes_parseBlock (bounded : labels.Bounded) (line : List Char) (rest : List (List Char)) :
    Makes maxNodes (fun block => (RichTextNode.measureAll block.1.toList).count - 1)
      (BlockFits line rest) (parseBlock labels line rest) := by
  unfold parseBlock
  split
  next lang fence =>
    apply makes_pure (fits_fence fence _ rest)
    rw [measure_single, RichTextNode.measure]
    rfl
  next noFence =>
  split
  next level text heading =>
    refine makes_map (makesInline_parseInline bounded text) (fun nodes good => ?_) (fun nodes => ?_)
    · refine ⟨?_, ?_, ?_⟩
      · rw [fenceLanguages, noFence]
        rfl
      · rw [noFence, accepted_single, RichTextNode.accepted, good, Bool.and_true,
          isLevel_of_matchHeading heading]
        exact ⟨nofun, fun _ => rfl⟩
      · rw [measure_single, RichTextNode.measure]
        exact depth_above nodes
    · rw [measure_single, RichTextNode.measure, above, measureInline]
      exact Nat.le_refl _
  next noHeading =>
  split
  next quote =>
    refine makes_map (makesInline_parseInline bounded _) (fun nodes good => ?_) (fun nodes => ?_)
    · rw [length_matchedLines]
      apply fits_taken (fun line => matchFence_eq_none_of_quote) quote
      · rw [accepted_single, RichTextNode.accepted, allAccepted_inline, good]
      · rw [measure_single, RichTextNode.measure, measureAll_inline]
        exact depth_above nodes
    · rw [measure_single, RichTextNode.measure, above, measureAll_inline, measureInline]
      exact Nat.le_refl _
  next noQuote =>
  split
  next item =>
    have takes : (matchListItem (matchOrdered line).isSome line).isSome = true := by
      unfold matchListItem
      split
      next ordered => exact ordered
      next unordered => rwa [Bool.eq_false_iff.mpr unordered, Bool.false_or] at item
    have makesItem : ∀ text : List Char, MakesInline (do
        bumpNode
        parseInline labels text) := by
      intro text
      exact makes_bind makes_bumpNode
        (fun _ _ => makesInline_parseInline bounded text) (fun _ nodes => Nat.le_add_left _ _)
    refine makes_map (makes_mapM _ fun text _ => makesItem text)
      (fun items good => ?_) (fun items => ?_)
    · rw [length_matchedLines]
      apply fits_taken (fun line => matchFence_eq_none_of_item) takes
      · rw [accepted_single, RichTextNode.accepted, itemsAccepted_inline good]
        rfl
      · have shallow := (measureItems_inline items).2
        rw [measure_single, RichTextNode.measure, above]
        dsimp only
        omega
    · rw [measure_single, RichTextNode.measure, above]
      exact Nat.le_of_eq (measureItems_inline items).1
  next noItem =>
    have takes : isParagraphLine line = true := by
      rw [isParagraphLine, noFence, noHeading]
      simp_all
    have none_of_taken : ∀ line, isParagraphLine line = true → matchFence line = none := by
      intro line taken
      simp only [isParagraphLine, Bool.and_eq_true, isNone_iff_eq_none] at taken
      exact taken.1.1.1.1
    dsimp only
    split
    next =>
      have empty : (RichTextNode.measureAll (none : Option RichTextNode).toList).depth ≤ 2 :=
        Nat.zero_le 2
      exact makes_pure (fits_taken none_of_taken takes rfl empty) rfl
    next =>
      refine makes_map (makesInline_parseInline bounded _) (fun nodes good => ?_) (fun nodes => ?_)
      · apply fits_taken none_of_taken takes
        · rw [accepted_single, RichTextNode.accepted, good]
        · rw [measure_single, RichTextNode.measure]
          exact depth_above nodes
      · rw [measure_single, RichTextNode.measure, above, measureInline]
        exact Nat.le_refl _

/-- Blocks that keep the bounds of the schema, up to the languages of the fences. -/
structure BlocksFit (lines : List (List Char)) (nodes : List RichTextNode) : Prop where
  accepted : allAccepted nodes = true ↔ ∀ lang ∈ fenceLanguages false lines, utf16Length lang ≤ 32
  depth : (measureAll nodes).depth ≤ 2

/-- What one block adds to the blocks behind its lines. -/
theorem blocksFit_append {line : List Char} {rest : List (List Char)}
    {block : Option RichTextNode × Nat} {nodes : List RichTextNode}
    (first : BlockFits line rest block) (others : BlocksFit (rest.drop (block.2 - 1)) nodes) :
    BlocksFit (line :: rest) (block.1.toList ++ nodes) where
  accepted := by
    rw [allAccepted_append, Bool.and_eq_true, first.accepted, others.accepted, first.languages,
      forall_mem_append]
  depth := by
    rw [measureAll_append]
    exact Nat.max_le.mpr ⟨first.depth, others.depth⟩

theorem makes_parseBlocks (bounded : labels.Bounded) (skip : Nat) (lines : List (List Char)) :
    Makes maxNodes (fun nodes => (measureAll nodes).count)
      (BlocksFit (lines.drop skip)) (parseBlocks labels skip lines) := by
  induction lines generalizing skip with
  | nil =>
    rw [drop_nil]
    have none : BlocksFit [] [] :=
      ⟨⟨nofun, fun _ => rfl⟩, Nat.zero_le 2⟩
    cases skip <;> exact makes_pure none rfl
  | cons line rest ih =>
    cases skip with
    | succ skip => exact ih skip
    | zero =>
      intro count nodes next made
      obtain ⟨_, bumped, bumpedOk, afterBump⟩ := bind_eq_ok.mp made
      obtain ⟨block, middle, blockOk, afterBlock⟩ := bind_eq_ok.mp afterBump
      obtain ⟨blocks, last, blocksOk, returned⟩ := bind_eq_ok.mp afterBlock
      obtain ⟨rfl, rfl⟩ := pure_eq_ok.mp returned
      obtain ⟨-, countBump, withinBump⟩ := makes_bumpNode count _ bumped bumpedOk
      obtain ⟨fits, countBlock, withinBlock⟩ :=
        makes_parseBlock bounded line rest bumped block middle blockOk
      obtain ⟨fitBlocks, countBlocks, withinBlocks⟩ :=
        ih _ middle blocks last blocksOk
      refine ⟨blocksFit_append fits fitBlocks, ?_,
        fun start => withinBlocks (withinBlock (withinBump start))⟩
      dsimp only at countBump countBlock countBlocks ⊢
      rw [measureAll_append, beside]
      dsimp only
      omega

end Blocks

/-- The schema accepts what the parser returns unless a fence has a language of more than 32
characters. -/
theorem accepted_iff_languages (raw : List Char) {labels : MentionLabelResolvers}
    (bounded : labels.Bounded) {parsed : ParsedMrkdwn}
    (returns : parseMrkdwn raw labels = .ok parsed) :
    parsed.ast.accepted = true ↔
      ∀ lang ∈ fenceLanguages false (raw.splitOn '\n'), utf16Length lang ≤ 32 := by
  unfold parseMrkdwn at returns
  cases scannedOk : parseBlocks labels 0 (raw.splitOn '\n') 1 with
  | error failure =>
    rw [scannedOk] at returns
    cases returns
  | ok scanned =>
  rw [scannedOk] at returns
  cases returns
  obtain ⟨fits, counted, within⟩ :=
    makes_parseBlocks bounded 0 (raw.splitOn '\n') 1 scanned.1 scanned.2 scannedOk
  have limit : scanned.2 ≤ maxNodes := within (by decide)
  have depth : (RichTextRoot.mk scanned.1).measure.depth ≤ maxDepth :=
    Nat.le_trans (Nat.succ_le_succ fits.depth) (by decide)
  have count : (RichTextRoot.mk scanned.1).measure.count ≤ maxNodes := by
    unfold RichTextRoot.measure above
    dsimp only at counted ⊢
    omega
  rw [RichTextRoot.accepted, decide_eq_true depth, decide_eq_true count, Bool.and_true,
    Bool.and_true]
  exact fits.accepted

/-- A note with a mention, a list and a fence. -/
def note : List Char :=
  "**Hello** @{cabcdefghij0123456789}\n- one\n- two\n```ts\nlet x = 1\n```".toList

/-- Everyone is called the same. -/
def noteLabels : MentionLabelResolvers where
  user := fun _ => some "Mina".toList

theorem noteLabels_bounded : noteLabels.Bounded where
  user := by
    intro id name named
    cases named
    decide
  channel := nofun
  role := nofun

theorem note_accepted :
    ∃ parsed, parseMrkdwn note noteLabels = .ok parsed ∧ parsed.ast.accepted = true := by
  have parses : (parseMrkdwn note noteLabels).toBool = true := by decide +kernel
  cases returns : parseMrkdwn note noteLabels with
  | error failure =>
    rw [returns] at parses
    cases parses
  | ok parsed =>
    exact ⟨parsed, rfl, (accepted_iff_languages note noteLabels_bounded returns).mpr
      (by decide +kernel)⟩

/-- A fence whose language has 33 letters. -/
def longFence : List Char :=
  "```".toList ++ List.replicate 33 'a'

theorem longFence_not_accepted :
    ¬ ∀ (raw : List Char) (labels : MentionLabelResolvers), labels.Bounded →
      ∀ parsed, parseMrkdwn raw labels = .ok parsed → parsed.ast.accepted = true := by
  intro alwaysAccepted
  have refused : (parseMrkdwn longFence).map (·.ast.accepted) = .ok false := by decide +kernel
  have bounded : MentionLabelResolvers.Bounded {} :=
    ⟨nofun, nofun, nofun⟩
  cases returns : parseMrkdwn longFence with
  | error failure =>
    rw [returns] at refused
    cases refused
  | ok parsed =>
    have accepted := alwaysAccepted longFence {} bounded parsed returns
    rw [returns] at refused
    exact absurd (accepted.symm.trans (Except.ok.inj refused)) (by decide)

end Bongtalk.Shared
