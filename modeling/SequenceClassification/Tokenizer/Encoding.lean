import SequenceClassification.Tokenizer.Basic

/-!
Encoding lists of texts as they are supplied. What is not there has no texts, a string is a list of its
characters, and an item that is no text is refused. Main statement: texts are encoded one by one.
-/
namespace SequenceClassification.Tokenizer

def suppliedItems : Json → Except Failure (List Json)
  | .arr items => .ok items
  | .str s => .ok (s.toList.map fun c => .str c.toString)
  | .obj fields => .ok (fields.map fun e => .str e.1)
  | v =>
    if v.truthy then .error (.wrongType ("'" ++ v.kindName ++ "' object is not iterable")) else .ok []

/-- The strategy that is asked for. With none given, texts are cut exactly if a limit is given. -/
def suppliedStrategy (limit : Option Int) : Json → Except Failure TruncationStrategy
  | .null => .ok (if limit.isSome then .longestFirst else .never)
  | v => TruncationStrategy.ofValue v

/-- Whether an item can begin a list of texts: a text, or a list that is empty or begins with one. -/
def canBegin : Json → Bool
  | .str _ | .arr [] | .arr (.str _ :: _) => true
  | _ => false

def noTextList : Failure :=
  .invalidValue ("text input must be of type \x60str\x60 (single example), \x60list[str]\x60 (batch or " ++
    "single pretokenized example) or \x60list[list[str]]\x60 (batch of pretokenized examples).")

def noText : Json → Failure
  | .arr [] => .invalidValue "not enough values to unpack (expected 2, got 0)"
  | .arr [_] => .invalidValue "not enough values to unpack (expected 2, got 1)"
  | .arr (_ :: _ :: _ :: _) => .invalidValue "too many values to unpack (expected 2)"
  | _ => .invalidValue ("Input is not valid. Should be a string, a list/tuple of strings or a " ++
      "list/tuple of integers.")

def itemText (v : Json) : Except Failure String :=
  match v with
  | .str s => .ok s
  | v => .error (noText v)

def checkLowers (v : Json) : Except Failure Unit :=
  match v with
  | .str _ => .ok ()
  | v => .error ⟨.missingAttribute, "'" ++ v.kindName ++ "' object has no attribute 'lower'"⟩

def encodeAll (t : Tokenizer) (texts : Json) (limit : Option Int) (strategy : Json) :
    Except Failure (List (List TokenId)) := do
  let items ← suppliedItems texts
  match items with
  | [] => pure []
  | first :: _ =>
    if t.lowersInput then items.forM checkLowers
    if !canBegin first then throw noTextList
    let strategy ← suppliedStrategy limit strategy
    let texts ← items.mapM itemText
    pure (texts.map (t.encode strategy (limit.getD (defaultLimit t.family))))

def encodeForModel (t : Tokenizer) (texts : Json) : Except Failure (List (List TokenId)) :=
  t.encodeAll texts (some classificationLimits.maxLength) (.str classificationLimits.strategy)

theorem forM_checkLowers (texts : List String) : (texts.map Json.str).forM checkLowers = .ok () := by
  induction texts with
  | nil => rfl
  | cons s texts ih => simpa [checkLowers, bind, Except.bind] using ih

theorem mapM_itemText (texts : List String) : (texts.map Json.str).mapM itemText = .ok texts := by
  induction texts with
  | nil => rfl
  | cons s texts ih => simp [itemText, bind, Except.bind, pure, Except.pure, ih]

/-- If there are texts, the strategy that is asked for is looked at, and then they are encoded one by one. -/
theorem encodeAll_texts_eq (t : Tokenizer) (limit : Option Int) (strategy : Json) (texts : List String) :
    t.encodeAll (.arr (texts.map .str)) limit strategy =
      if texts.isEmpty then .ok []
      else (suppliedStrategy limit strategy).map fun s =>
        texts.map (t.encode s (limit.getD (defaultLimit t.family))) := by
  cases texts with
  | nil => rfl
  | cons first rest =>
    have h₁ := forM_checkLowers (first :: rest)
    have h₂ := mapM_itemText (first :: rest)
    simp only [List.map_cons] at h₁ h₂
    simp only [encodeAll, suppliedItems, List.map_cons, canBegin, h₁, h₂, bind, Except.bind, pure,
      Except.pure]
    cases suppliedStrategy limit strategy <;> split <;> rfl

/-- Texts are encoded one by one, each in the same way wherever it stands. -/
theorem encodeAll_texts (t : Tokenizer) {limit : Option Int} {strategy : Json}
    {s : TruncationStrategy} (h : suppliedStrategy limit strategy = .ok s) (texts : List String) :
    t.encodeAll (.arr (texts.map .str)) limit strategy =
      .ok (texts.map (t.encode s (limit.getD (defaultLimit t.family)))) := by
  rw [encodeAll_texts_eq, h]
  cases texts <;> rfl

end SequenceClassification.Tokenizer
