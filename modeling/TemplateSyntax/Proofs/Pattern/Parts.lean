import TemplateSyntax.Proofs.Pattern.WellFormed

/-!
# The parts of a pattern that are written out

A record may leave a field without a pattern: `Field.punned` makes up a variable
for it that no tokens of its own stand for.  `WholeHolds part tokens value`
selects the other parts.  They have tokens of their own (`exists_whole`) and so
are well-formed, and nothing but fields that are variables of their own name is
left out (`wholeHolds_of_within`).
-/

namespace TemplateSyntax.Pattern

/-- The part stands somewhere in the pattern, other than as a field that is a
variable of its own name. -/
inductive Within (part : Pattern) : Pattern → Prop where
  | self : Within part part
  | named (name : String) {inner : Pattern} :
      Within part inner → Within part (.named name inner)
  | argument (head : QualifiedName) {arguments : List Pattern}
      {argument : Pattern} :
      argument ∈ arguments → Within part argument →
      Within part (.construct head arguments)
  | field (head : QualifiedName) (wildcard : Bool)
      {fields : List (String × Pattern)} {field : String × Pattern} :
      field ∈ fields → field.2 ≠ .var field.1 → Within part field.2 →
      Within part (.record head fields wildcard)
  | tupleItem {items : List Pattern} {item : Pattern} :
      item ∈ items → Within part item → Within part (.tuple items)
  | listItem {items : List Pattern} {item : Pattern} :
      item ∈ items → Within part item → Within part (.list items)

namespace Grammar

mutual

/-- The part is derived on the way to the pattern. -/
inductive WholeHolds (part : Pattern) : List Token → Pattern → Prop where
  | self {tokens : List Token} :
      Whole tokens part → WholeHolds part tokens part
  | part {tokens : List Token} {value : Pattern} :
      PartHolds part tokens value → WholeHolds part tokens value
  | argument {first rest : List Token} {head : QualifiedName}
      {arguments : List Pattern} :
      Constructor first head → ArgumentsHold part rest arguments →
      WholeHolds part (first ++ rest) (.construct head arguments)

/-- The part is derived on the way to one of the parts side by side. -/
inductive ArgumentsHold (part : Pattern) :
    List Token → List Pattern → Prop where
  | one {tokens : List Token} {value : Pattern} :
      PartHolds part tokens value → ArgumentsHold part tokens [value]
  | first {first rest : List Token} {value : Pattern}
      {values : List Pattern} :
      PartHolds part first value → Arguments rest values →
      ArgumentsHold part (first ++ rest) (value :: values)
  | later {first rest : List Token} {value : Pattern}
      {values : List Pattern} :
      Part first value → ArgumentsHold part rest values →
      ArgumentsHold part (first ++ rest) (value :: values)

/-- The part is derived on the way to a part of a pattern. -/
inductive PartHolds (part : Pattern) : List Token → Pattern → Prop where
  | self {tokens : List Token} :
      Part tokens part → PartHolds part tokens part
  | named (lexeme sign : List Char) {tokens : List Token} {value : Pattern} :
      PartHolds part tokens value →
      PartHolds part (⟨.variableWord, lexeme⟩ :: ⟨.asSign, sign⟩ :: tokens)
        (.named (wordName lexeme) value)
  | record (opening closing : List Char) {first rest : List Token}
      {head : QualifiedName} {fields : List (String × Pattern)}
      {wildcard : Bool} :
      Constructor first head → FieldsHold part rest fields wildcard →
      PartHolds part
        (first ++ ⟨.openBrace, opening⟩ :: rest ++ [⟨.closeBrace, closing⟩])
        (.record head fields wildcard)
  | group (opening closing : List Char) {tokens : List Token}
      {value : Pattern} :
      WholeHolds part tokens value →
      PartHolds part
        (⟨.patternOpenParen, opening⟩ :: tokens ++
          [⟨.patternCloseParen, closing⟩])
        value
  | tupleFirst (opening comma closing : List Char) {first rest : List Token}
      {head : Pattern} {tail : List Pattern} :
      WholeHolds part first head → Items rest tail →
      PartHolds part
        (⟨.patternOpenParen, opening⟩ :: first ++ ⟨.patternComma, comma⟩ ::
          rest ++ [⟨.patternCloseParen, closing⟩])
        (.tuple (head :: tail))
  | tupleLater (opening comma closing : List Char) {first rest : List Token}
      {head : Pattern} {tail : List Pattern} :
      Whole first head → ItemsHold part rest tail →
      PartHolds part
        (⟨.patternOpenParen, opening⟩ :: first ++ ⟨.patternComma, comma⟩ ::
          rest ++ [⟨.patternCloseParen, closing⟩])
        (.tuple (head :: tail))
  | list (opening closing : List Char) {tokens : List Token}
      {items : List Pattern} :
      ItemsHold part tokens items →
      PartHolds part
        (⟨.patternOpenBracket, opening⟩ :: tokens ++
          [⟨.patternCloseBracket, closing⟩])
        (.list items)

/-- The part is derived on the way to one of the fields. -/
inductive FieldsHold (part : Pattern) :
    List Token → List (String × Pattern) → Bool → Prop where
  | one {tokens : List Token} {field : String × Pattern} :
      FieldHolds part tokens field → FieldsHold part tokens [field] false
  | oneOpen (comma dots : List Char) {tokens : List Token}
      {field : String × Pattern} :
      FieldHolds part tokens field →
      FieldsHold part
        (tokens ++ [⟨.patternComma, comma⟩, ⟨.wildcard, dots⟩]) [field] true
  | first (comma : List Char) {first rest : List Token}
      {field : String × Pattern} {fields : List (String × Pattern)}
      {wildcard : Bool} :
      FieldHolds part first field → Fields rest fields wildcard →
      FieldsHold part (first ++ ⟨.patternComma, comma⟩ :: rest)
        (field :: fields) wildcard
  | later (comma : List Char) {first rest : List Token}
      {field : String × Pattern} {fields : List (String × Pattern)}
      {wildcard : Bool} :
      Field first field → FieldsHold part rest fields wildcard →
      FieldsHold part (first ++ ⟨.patternComma, comma⟩ :: rest)
        (field :: fields) wildcard

/-- The part is derived on the way to the pattern of a field; a field that stands
alone has none. -/
inductive FieldHolds (part : Pattern) :
    List Token → String × Pattern → Prop where
  | bound (sign : List Char) {token : Token} {tokens : List Token}
      {name : String} {value : Pattern} :
      FieldName token name → WholeHolds part tokens value →
      FieldHolds part (token :: ⟨.equals, sign⟩ :: tokens) (name, value)

/-- The part is derived on the way to one of the patterns. -/
inductive ItemsHold (part : Pattern) : List Token → List Pattern → Prop where
  | one {tokens : List Token} {value : Pattern} :
      WholeHolds part tokens value → ItemsHold part tokens [value]
  | first (comma : List Char) {first rest : List Token} {value : Pattern}
      {values : List Pattern} :
      WholeHolds part first value → Items rest values →
      ItemsHold part (first ++ ⟨.patternComma, comma⟩ :: rest)
        (value :: values)
  | later (comma : List Char) {first rest : List Token} {value : Pattern}
      {values : List Pattern} :
      Whole first value → ItemsHold part rest values →
      ItemsHold part (first ++ ⟨.patternComma, comma⟩ :: rest)
        (value :: values)

end

variable {part : Pattern}

/-! ### Tokens of its own -/

/-- Some of the tokens are a derivation of the part. -/
def DerivedFrom (part : Pattern) (tokens : List Token) : Prop :=
  ∃ own, own ⊆ tokens ∧ Whole own part

namespace DerivedFrom

variable {tokens : List Token}

theorem all (whole : Whole tokens part) : DerivedFrom part tokens :=
  ⟨tokens, List.Subset.refl tokens, whole⟩

theorem behind (token : Token) (derived : DerivedFrom part tokens) :
    DerivedFrom part (token :: tokens) := by
  obtain ⟨own, among, whole⟩ := derived
  exact ⟨own, List.subset_cons_of_subset token among, whole⟩

theorem left (later : List Token) (derived : DerivedFrom part tokens) :
    DerivedFrom part (tokens ++ later) := by
  obtain ⟨own, among, whole⟩ := derived
  exact ⟨own, List.subset_append_of_subset_left later among, whole⟩

theorem right (first : List Token) (derived : DerivedFrom part tokens) :
    DerivedFrom part (first ++ tokens) := by
  obtain ⟨own, among, whole⟩ := derived
  exact ⟨own, List.subset_append_of_subset_right first among, whole⟩

end DerivedFrom

/-- By induction over the derivation: every constructor puts tokens before or
behind those of one premise. -/
theorem WholeHolds.derivedFrom {tokens : List Token} {value : Pattern}
    (holds : WholeHolds part tokens value) : DerivedFrom part tokens := by
  refine @WholeHolds.rec part
    (fun tokens _ _ => DerivedFrom part tokens)
    (fun tokens _ _ => DerivedFrom part tokens)
    (fun tokens _ _ => DerivedFrom part tokens)
    (fun tokens _ _ _ => DerivedFrom part tokens)
    (fun tokens _ _ => DerivedFrom part tokens)
    (fun tokens _ _ => DerivedFrom part tokens)
    ?self ?part ?argument ?oneArgument ?firstArgument ?laterArgument
    ?partSelf ?named ?record ?group ?tupleFirst ?tupleLater ?list ?oneField
    ?oneFieldOpen ?firstField ?laterField ?bound ?oneItem ?firstItem
    ?laterItem
    tokens value holds
  -- patterns and arguments
  case self => exact fun whole => .all whole
  case part => exact fun _ inside => inside
  case argument => exact fun _ _ inside => inside.right _
  case oneArgument => exact fun _ inside => inside
  case firstArgument => exact fun _ _ inside => inside.left _
  case laterArgument => exact fun _ _ inside => inside.right _
  -- parts
  case partSelf => exact fun own => .all (.part own)
  case named => exact fun _ _ _ _ _ inside => (inside.behind _).behind _
  case record =>
    exact fun _ _ _ _ _ _ _ _ _ inside => ((inside.behind _).right _).left _
  case group => exact fun _ _ _ _ _ inside => (inside.behind _).left _
  case tupleFirst =>
    exact fun _ _ _ _ _ _ _ _ _ inside => ((inside.behind _).left _).left _
  case tupleLater =>
    exact fun _ _ _ _ _ _ _ _ _ inside => ((inside.behind _).right _).left _
  case list => exact fun _ _ _ _ _ inside => (inside.behind _).left _
  -- fields
  case oneField => exact fun _ inside => inside
  case oneFieldOpen => exact fun _ _ _ _ _ inside => inside.left _
  case firstField => exact fun _ _ _ _ _ _ _ _ inside => inside.left _
  case laterField =>
    exact fun _ _ _ _ _ _ _ _ inside => (inside.behind _).right _
  case bound => exact fun _ _ _ _ _ _ _ inside => (inside.behind _).behind _
  -- items
  case oneItem => exact fun _ inside => inside
  case firstItem => exact fun _ _ _ _ _ _ _ inside => inside.left _
  case laterItem => exact fun _ _ _ _ _ _ _ inside => (inside.behind _).right _

theorem WholeHolds.wellFormed {triggers : Triggers} {tokens : List Token}
    {value : Pattern} (holds : WholeHolds part tokens value)
    (read : ∀ token ∈ tokens, token.Read triggers) : WellFormed part := by
  obtain ⟨own, among, whole⟩ := holds.derivedFrom
  exact wellFormed_of_whole whole fun token member =>
    read token (among member)

/-! ### Nothing else is left out -/

/-- By induction over the derivation of the pattern. -/
theorem wholeHolds_of_within {tokens : List Token} {value : Pattern}
    (whole : Whole tokens value) (within : Within part value) :
    WholeHolds part tokens value := by
  revert within
  refine @Whole.rec
    (fun tokens value _ => Within part value → WholeHolds part tokens value)
    (fun tokens values _ => ∀ value ∈ values, Within part value →
      ArgumentsHold part tokens values)
    (fun tokens value _ => Within part value → PartHolds part tokens value)
    (fun tokens fields wildcard _ => ∀ field ∈ fields,
      field.2 ≠ .var field.1 → Within part field.2 →
        FieldsHold part tokens fields wildcard)
    (fun tokens field _ => field.2 ≠ .var field.1 → Within part field.2 →
      FieldHolds part tokens field)
    (fun tokens values _ => ∀ value ∈ values, Within part value →
      ItemsHold part tokens values)
    ?part ?application ?oneArgument ?moreArguments ?var ?named ?bare
    ?emptyRecord ?openRecord ?record ?emptyTuple ?group ?tuple ?emptyList
    ?list ?oneField ?oneFieldOpen ?moreFields ?punned ?bound ?oneItem
    ?moreItems
    tokens value whole
  -- patterns and arguments
  case part => exact fun _ held within => .part (held within)
  case application =>
    intro first rest head arguments constructor later held within
    cases within with
    | self => exact .self (.application constructor later)
    | argument head member inside =>
        exact .argument constructor (held _ member inside)
  case oneArgument =>
    intro tokens value _ held argument member within
    cases List.mem_singleton.mp member
    exact .one (held within)
  case moreArguments =>
    intro first rest value values own later held heldLater argument member
      within
    rcases List.mem_cons.mp member with rfl | behind
    · exact .first (held within) later
    · exact .later own (heldLater argument behind within)
  -- parts
  case var =>
    intro lexeme within
    cases within with
    | self => exact .self (.var lexeme)
  case named =>
    intro lexeme sign tokens value own held within
    cases within with
    | self => exact .self (.named lexeme sign own)
    | named name inside => exact .named lexeme sign (held inside)
  case bare =>
    intro tokens head constructor within
    cases within with
    | self => exact .self (.bare constructor)
    | argument head member inside => cases member
  case emptyRecord =>
    intro opening closing tokens head constructor within
    cases within with
    | self => exact .self (.emptyRecord opening closing constructor)
    | field head wildcard member written inside => cases member
  case openRecord =>
    intro opening dots closing tokens head constructor within
    cases within with
    | self => exact .self (.openRecord opening dots closing constructor)
    | field head wildcard member written inside => cases member
  case record =>
    intro opening closing first rest head fields wildcard constructor inside
      held within
    cases within with
    | self => exact .self (.record opening closing constructor inside)
    | field head wildcard member written within =>
        exact .record opening closing constructor
          (held _ member written within)
  case emptyTuple =>
    intro opening closing within
    cases within with
    | self => exact .self (.emptyTuple opening closing)
    | tupleItem member inside => cases member
  case group =>
    exact fun opening closing _ _ _ held within =>
      .group opening closing (held within)
  case tuple =>
    intro opening comma closing first rest head tail whole later held heldLater
      within
    cases within with
    | self => exact .self (.tuple opening comma closing whole later)
    | tupleItem member inside =>
        rcases List.mem_cons.mp member with rfl | behind
        · exact .tupleFirst opening comma closing (held inside) later
        · exact .tupleLater opening comma closing whole
            (heldLater _ behind inside)
  case emptyList =>
    intro opening closing within
    cases within with
    | self => exact .self (.emptyList opening closing)
    | listItem member inside => cases member
  case list =>
    intro opening closing tokens items own held within
    cases within with
    | self => exact .self (.list opening closing own)
    | listItem member inside =>
        exact .list opening closing (held _ member inside)
  -- fields
  case oneField =>
    intro tokens own _ held field member written within
    cases List.mem_singleton.mp member
    exact .one (held written within)
  case oneFieldOpen =>
    intro comma dots tokens own _ held field member written within
    cases List.mem_singleton.mp member
    exact .oneOpen comma dots (held written within)
  case moreFields =>
    intro comma first rest own fields wildcard derivation later held heldLater
      field member written within
    rcases List.mem_cons.mp member with rfl | behind
    · exact .first comma (held written within) later
    · exact .later comma derivation (heldLater field behind written within)
  case punned => exact fun _ written => absurd rfl written
  case bound =>
    exact fun sign _ _ _ _ isName _ held _ within =>
      .bound sign isName (held within)
  -- items
  case oneItem =>
    intro tokens own _ held value member within
    cases List.mem_singleton.mp member
    exact .one (held within)
  case moreItems =>
    intro comma first rest own values whole later held heldLater value member
      within
    rcases List.mem_cons.mp member with rfl | behind
    · exact .first comma (held within) later
    · exact .later comma whole (heldLater value behind within)

end Grammar

end TemplateSyntax.Pattern
