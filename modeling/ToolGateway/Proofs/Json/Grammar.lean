import ToolGateway.Json.Document
import ToolGateway.Proofs.Json.Spelling

/-!
# The grammar of documents

A document is a list of tokens in one way: an array is its items between brackets with commas
between them, and an object its members, each a name, a colon and a value. A text is JSON if it is
spelled by the tokens of a document.

`Document.parse?_eq_some_iff` says that reading a text finds the document by which it is spelled.
-/

namespace ToolGateway.Json.Document

/-! ## Tokens of a document -/

mutual

/-- The tokens of a document. -/
def tokens : Document → List Token
  | .null => [.null]
  | .bool b => [.bool b]
  | .number literal => [.number literal]
  | .string pieces => [.string pieces]
  | .array items => .openArray :: ([Token.comma].intercalate (tokensOfItems items) ++ [.closeArray])
  | .object members =>
    .openObject :: ([Token.comma].intercalate (tokensOfMembers members) ++ [.closeObject])

/-- The tokens of each item. -/
def tokensOfItems : List Document → List (List Token)
  | [] => []
  | item :: items => item.tokens :: tokensOfItems items

/-- The tokens of each member. -/
def tokensOfMembers : List (List Piece × Document) → List (List Token)
  | [] => []
  | (name, d) :: members => (.string name :: .colon :: d.tokens) :: tokensOfMembers members

end

/-- A text is spelled by the tokens of a document. -/
def SpelledBy (d : Document) (bytes : Bytes) : Prop := Token.ListSpelledBy d.tokens bytes

/-- The tokens of a member. -/
def memberTokens (member : List Piece × Document) : List Token :=
  .string member.1 :: .colon :: member.2.tokens

/-- What follows a member follows its value. -/
theorem memberTokens_append (name : List Piece) (d : Document) (rest : List Token) :
    memberTokens (name, d) ++ rest = .string name :: .colon :: (d.tokens ++ rest) := rfl

theorem tokensOfItems_eq (items : List Document) : tokensOfItems items = items.map tokens := by
  induction items with
  | nil => rfl
  | cons item items ih => rw [tokensOfItems, ih, List.map_cons]

theorem tokensOfMembers_eq (members : List (List Piece × Document)) :
    tokensOfMembers members = members.map memberTokens := by
  induction members with
  | nil => rfl
  | cons member members ih => rw [tokensOfMembers, ih, List.map_cons, memberTokens]

/-- Behind the first of several lists each has a separator in front. -/
theorem intercalate_cons {α : Type} (separator : α) (first : List α) (lists : List (List α)) :
    [separator].intercalate (first :: lists) = first ++ lists.flatMap (separator :: ·) := by
  induction lists generalizing first with
  | nil => simp
  | cons second lists ih => simp [List.intercalate_cons_cons, ih]

/-- Before the last of several lists each has a separator behind. -/
theorem intercalate_concat {α : Type} (separator : α) (lists : List (List α)) (last : List α) :
    [separator].intercalate (lists ++ [last]) = lists.flatMap (· ++ [separator]) ++ last := by
  induction lists with
  | nil => simp
  | cons first lists ih =>
    rw [List.flatMap_cons, List.append_assoc, ← ih, List.cons_append]
    cases lists <;> simp [List.intercalate_cons_cons]

/-- The tokens of an array that is not empty, from its first item on. -/
theorem tokens_array_cons (item : Document) (items : List Document) :
    (array (item :: items)).tokens = .openArray :: (item.tokens ++
      (items.flatMap (fun item => .comma :: item.tokens) ++ [.closeArray])) := by
  rw [tokens, tokensOfItems_eq, List.map_cons, intercalate_cons, List.flatMap_map,
    List.append_assoc]

/-- Those of an object. -/
theorem tokens_object_cons (member : List Piece × Document)
    (members : List (List Piece × Document)) :
    (object (member :: members)).tokens = .openObject :: (memberTokens member ++
      (members.flatMap (fun member => .comma :: memberTokens member) ++ [.closeObject])) := by
  rw [tokens, tokensOfMembers_eq, List.map_cons, intercalate_cons, List.flatMap_map,
    List.append_assoc]

/-- The tokens of an array that is not empty, up to its last item. -/
theorem tokens_array_concat (items : List Document) (last : Document) :
    (array (items ++ [last])).tokens = .openArray ::
      (items.flatMap (fun item => item.tokens ++ [.comma]) ++ (last.tokens ++ [.closeArray])) := by
  rw [tokens, tokensOfItems_eq, List.map_append, List.map_singleton, intercalate_concat,
    List.flatMap_map, List.append_assoc]

/-- Those of an object. -/
theorem tokens_object_concat (members : List (List Piece × Document))
    (last : List Piece × Document) :
    (object (members ++ [last])).tokens = .openObject ::
      (members.flatMap (fun member => memberTokens member ++ [.comma]) ++
        (memberTokens last ++ [.closeObject])) := by
  rw [tokens, tokensOfMembers_eq, List.map_append, List.map_singleton, intercalate_concat,
    List.flatMap_map, List.append_assoc]

/-! ## What stands behind a number -/

/-- A token that is no number may have any other behind it. -/
theorem mayPrecede_of_ne {token : Token} (h : ∀ literal, token ≠ .number literal) (next : Token) :
    token.MayPrecede next := fun literal hliteral => absurd hliteral (h literal)

/-- A list of tokens that may follow a value. -/
structure MayFollow (rest : List Token) : Prop where
  chain : rest.IsChain Token.MayPrecede
  head : ∀ token ∈ rest.head?, token.endsNumber = true

/-- A token behind which anything may stand does not break a chain. -/
theorem isChain_cons_of_ne (token : Token) (h : ∀ literal, token ≠ .number literal)
    {rest : List Token} (hrest : rest.IsChain Token.MayPrecede) :
    (token :: rest).IsChain Token.MayPrecede :=
  List.isChain_cons.mpr ⟨fun next _ => mayPrecede_of_ne h next, hrest⟩

mutual

/-- Behind a document may stand what may follow a value. -/
theorem isChain_tokens_append (d : Document) {rest : List Token} (h : MayFollow rest) :
    (d.tokens ++ rest).IsChain Token.MayPrecede := by
  match d with
  | .null => exact isChain_cons_of_ne _ (by simp) h.chain
  | .bool b => exact isChain_cons_of_ne _ (by simp) h.chain
  | .string pieces => exact isChain_cons_of_ne _ (by simp) h.chain
  | .number literal =>
    exact List.isChain_cons.mpr ⟨fun next hnext _ _ => h.head next hnext, h.chain⟩
  | .array [] => exact isChain_cons_of_ne _ (by simp) (isChain_cons_of_ne _ (by simp) h.chain)
  | .object [] => exact isChain_cons_of_ne _ (by simp) (isChain_cons_of_ne _ (by simp) h.chain)
  | .array (item :: items) =>
    have hclose : MayFollow (.closeArray :: rest) :=
      ⟨isChain_cons_of_ne _ (by simp) h.chain, by simp [Token.endsNumber]⟩
    have hitem := isChain_tokens_append item (mayFollow_items items hclose)
    rw [tokens_array_cons]
    simpa using isChain_cons_of_ne .openArray (by simp) hitem
  | .object ((name, value) :: members) =>
    have hclose : MayFollow (.closeObject :: rest) :=
      ⟨isChain_cons_of_ne _ (by simp) h.chain, by simp [Token.endsNumber]⟩
    have hvalue := isChain_tokens_append value (mayFollow_members members hclose)
    have hmember := isChain_cons_of_ne (.string name) (by simp)
      (isChain_cons_of_ne .colon (by simp) hvalue)
    rw [tokens_object_cons]
    simpa [memberTokens] using isChain_cons_of_ne .openObject (by simp) hmember

/-- So may further items. -/
theorem mayFollow_items (items : List Document) {rest : List Token} (h : MayFollow rest) :
    MayFollow (items.flatMap (fun item => .comma :: item.tokens) ++ rest) := by
  match items with
  | [] => exact h
  | item :: items =>
    have hitem := isChain_tokens_append item (mayFollow_items items h)
    refine ⟨?_, by simp [Token.endsNumber]⟩
    simpa using isChain_cons_of_ne .comma (by simp) hitem

/-- And further members. -/
theorem mayFollow_members (members : List (List Piece × Document)) {rest : List Token}
    (h : MayFollow rest) :
    MayFollow (members.flatMap (fun member => .comma :: memberTokens member) ++ rest) := by
  match members with
  | [] => exact h
  | (name, value) :: members =>
    have hvalue := isChain_tokens_append value (mayFollow_members members h)
    have hmember := isChain_cons_of_ne (.string name) (by simp)
      (isChain_cons_of_ne .colon (by simp) hvalue)
    refine ⟨?_, by simp [Token.endsNumber]⟩
    simpa [memberTokens] using isChain_cons_of_ne .comma (by simp) hmember

end

/-- In a document nothing but its end stands behind a number. -/
theorem isChain_tokens (d : Document) : d.tokens.IsChain Token.MayPrecede := by
  have hnone : MayFollow [] := ⟨List.isChain_nil, by simp⟩
  simpa using isChain_tokens_append d hnone

/-! ## The machine reads the tokens of a document -/

/-- Runs the machine over some tokens. -/
abbrev State.run (state : State) (tokens : List Token) : Option State :=
  tokens.foldlM State.step state

/-- The first item of an array is read like any other. -/
theorem run_firstItem (d : Document) (frames : List Frame) (rest : List Token) :
    State.run (.firstItem frames) (d.tokens ++ rest) =
      State.run (.value (.items [] :: frames)) (d.tokens ++ rest) := by
  cases d <;> rfl

mutual

/-- A document is read as a value. -/
theorem run_tokens (d : Document) (frames : List Frame) (rest : List Token) :
    State.run (.value frames) (d.tokens ++ rest) = State.run (.after d frames) rest := by
  match d with
  | .null => rfl
  | .bool b => rfl
  | .string pieces => rfl
  | .number literal => rfl
  | .array [] => rfl
  | .object [] => rfl
  | .array (item :: items) =>
    have hitems := run_items items [] item frames rest
    rw [tokens_array_cons]
    simp only [List.cons_append, List.append_assoc, List.nil_append]
    change State.run (.firstItem frames) _ = _
    rw [run_firstItem, run_tokens item, hitems]
    rfl
  | .object ((name, value) :: members) =>
    have hmembers := run_members members [] name value frames rest
    rw [tokens_object_cons]
    simp only [List.cons_append, List.append_assoc, List.nil_append, memberTokens_append]
    change State.run (.value (.member [] name :: frames)) _ = _
    rw [run_tokens value, hmembers]
    rfl

/-- Further items are added to those before them. -/
theorem run_items (items done : List Document) (d : Document) (frames : List Frame)
    (rest : List Token) :
    State.run (.after d (.items done :: frames))
        (items.flatMap (fun item => .comma :: item.tokens) ++ .closeArray :: rest) =
      State.run (.after (.array ((d :: done).reverse ++ items)) frames) rest := by
  match items with
  | [] =>
    rw [List.append_nil]
    rfl
  | item :: items =>
    have hitems := run_items items (d :: done) item frames rest
    simp only [List.flatMap_cons, List.cons_append, List.append_assoc]
    change State.run (.value (.items (d :: done) :: frames)) _ = _
    rw [run_tokens item, hitems, List.reverse_cons, List.append_assoc, List.singleton_append]

/-- So are further members. -/
theorem run_members (members done : List (List Piece × Document)) (name : List Piece)
    (d : Document) (frames : List Frame) (rest : List Token) :
    State.run (.after d (.member done name :: frames))
        (members.flatMap (fun member => .comma :: memberTokens member) ++ .closeObject :: rest) =
      State.run (.after (.object (((name, d) :: done).reverse ++ members)) frames) rest := by
  match members with
  | [] =>
    rw [List.append_nil]
    rfl
  | (name', value) :: members =>
    have hmembers := run_members members ((name, d) :: done) name' value frames rest
    simp only [List.flatMap_cons, List.cons_append, List.append_assoc, memberTokens_append]
    change State.run (.value (.member ((name, d) :: done) name' :: frames)) _ = _
    rw [run_tokens value, hmembers, List.reverse_cons, List.append_assoc, List.singleton_append]

end

/-! ## The machine reads nothing else -/

/-- The tokens that an open array or object was read from. -/
def Frame.tokens : Frame → List Token
  | .items done => .openArray :: done.reverse.flatMap (fun item => item.tokens ++ [.comma])
  | .member done key =>
    .openObject :: (done.reverse.flatMap (fun member => memberTokens member ++ [.comma]) ++
      [.string key, .colon])

/-- The tokens of all that is open, the outermost first. -/
def tokensOfFrames (frames : List Frame) : List Token := frames.reverse.flatMap Frame.tokens

/-- The tokens that a state was read from. -/
def State.tokens : State → List Token
  | .value frames => tokensOfFrames frames
  | .firstItem frames => tokensOfFrames frames ++ [.openArray]
  | .firstMember frames => tokensOfFrames frames ++ [.openObject]
  | .name done frames =>
    tokensOfFrames frames ++ .openObject ::
      done.reverse.flatMap (fun member => memberTokens member ++ [.comma])
  | .colon done key frames =>
    tokensOfFrames frames ++ .openObject ::
      (done.reverse.flatMap (fun member => memberTokens member ++ [.comma]) ++ [.string key])
  | .after d frames => tokensOfFrames frames ++ d.tokens

/-- The innermost frame comes last. -/
theorem tokensOfFrames_cons (frame : Frame) (frames : List Frame) :
    tokensOfFrames (frame :: frames) = tokensOfFrames frames ++ frame.tokens := by
  simp [tokensOfFrames]

/-- The first token of a value is read. -/
theorem tokens_enter {frames : List Frame} {token : Token} {after : State}
    (h : State.enter frames token = some after) :
    after.tokens = tokensOfFrames frames ++ [token] := by
  cases token <;> simp only [State.enter, Option.some.injEq, reduceCtorEq] at h <;> subst h <;> rfl

/-- A step reads its token. -/
theorem tokens_step {state after : State} {token : Token} (h : state.step token = some after) :
    after.tokens = state.tokens ++ [token] := by
  unfold State.step at h
  split at h
  case h_1 => exact tokens_enter h
  case h_3 frames _ _ =>
    rw [tokens_enter h, tokensOfFrames_cons]
    rfl
  case h_12 => cases h
  all_goals obtain rfl := Option.some.inj h
  case h_2 => simp [State.tokens, tokens, tokensOfItems]
  case h_4 => simp [State.tokens, tokens, tokensOfMembers]
  case h_5 => simp [State.tokens]
  case h_6 => simp [State.tokens]
  case h_7 => simp [State.tokens, tokensOfFrames_cons, Frame.tokens]
  case h_8 => simp [State.tokens, tokensOfFrames_cons, Frame.tokens]
  case h_9 =>
    rw [State.tokens, List.reverse_cons, tokens_array_concat, State.tokens, tokensOfFrames_cons]
    simp [Frame.tokens]
  case h_10 => simp [State.tokens, tokensOfFrames_cons, Frame.tokens, memberTokens]
  case h_11 =>
    rw [State.tokens, List.reverse_cons, tokens_object_concat, State.tokens, tokensOfFrames_cons]
    simp [Frame.tokens, memberTokens]

/-- A run reads its tokens. -/
theorem tokens_run {state after : State} {tokens : List Token}
    (h : state.run tokens = some after) : after.tokens = state.tokens ++ tokens := by
  induction tokens generalizing state with
  | nil =>
    obtain rfl := Option.some.inj h
    exact (List.append_nil _).symm
  | cons token tokens ih =>
    obtain ⟨next, hstep, hrun⟩ := Option.bind_eq_some_iff.mp h
    rw [ih hrun, tokens_step hstep, List.append_assoc, List.singleton_append]

/-- A list of tokens is read as the document whose tokens they are. -/
theorem ofTokens?_eq_some_iff {tokens : List Token} {d : Document} :
    ofTokens? tokens = some d ↔ d.tokens = tokens := by
  constructor
  · intro h
    obtain ⟨state, hrun, hdone⟩ := Option.bind_eq_some_iff.mp h
    have hread := tokens_run hrun
    unfold State.document? at hdone
    split at hdone
    · obtain rfl := Option.some.inj hdone
      exact hread
    · cases hdone
  · rintro rfl
    have hrun := run_tokens d [] []
    rw [List.append_nil] at hrun
    rw [ofTokens?, ← State.run, hrun]
    rfl

/-- A text is read as the document by which it is spelled. -/
theorem parse?_eq_some_iff {bytes : Bytes} {d : Document} :
    parse? bytes = some d ↔ d.SpelledBy bytes := by
  constructor
  · intro h
    obtain ⟨tokens, htokens, hd⟩ := Option.bind_eq_some_iff.mp h
    obtain rfl := ofTokens?_eq_some_iff.mp hd
    exact (tokens?_eq_some_iff (isChain_tokens d)).mp htokens
  · intro h
    rw [parse?, (tokens?_eq_some_iff (isChain_tokens d)).mpr h, Option.bind_some,
      ofTokens?_eq_some_iff]

/-- A text that is cut into the tokens of a document is spelled by it. -/
theorem SpelledBy.of_tokens? {bytes : Bytes} {d : Document} (h : tokens? bytes = some d.tokens) :
    d.SpelledBy bytes :=
  (tokens?_eq_some_iff (isChain_tokens d)).mp h

end ToolGateway.Json.Document
