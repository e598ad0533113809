import TemplateSyntax.Proofs.Terminal.Kept
import TemplateSyntax.Proofs.Unicode.Included

/-!
# Rules in front of a digit

Some rules look further ahead than at the next character, but none of them looks
behind a digit it does not read.  So what has been read in front of a digit does
not depend on what stands behind that digit
(`Terminal.boundedByDigit_scan`).
-/

namespace TemplateSyntax

namespace Scan

variable {first second scan : Scan}

/-- What the rule reads in front of a digit, it reads whatever stands behind the
digit. -/
def BoundedByDigit (scan : Scan) : Prop :=
  ∀ ⦃text lexeme ahead back : List Char⦄ ⦃digit : Char⦄ (more : List Char),
    Unicode.isDecimal digit = true →
    scan text = some (lexeme, ahead ++ digit :: back) →
    scan (lexeme ++ (ahead ++ digit :: more)) =
      some (lexeme, ahead ++ digit :: more)

/-- Where the rule reads nothing and a digit follows, it reads nothing whatever
stands behind the digit. -/
def RefusesByDigit (scan : Scan) : Prop :=
  ∀ ⦃ahead back : List Char⦄ ⦃digit : Char⦄ (more : List Char),
    Unicode.isDecimal digit = true → scan (ahead ++ digit :: back) = none →
    scan (ahead ++ digit :: more) = none

/-! ### Where nothing is read -/

namespace RefusesByDigit

theorem one (accepts : Char → Bool) : (one accepts).RefusesByDigit := by
  intro ahead back digit more _ unread
  cases ahead with
  | nil => simpa [Scan.one] using unread
  | cons c ahead => simpa [Scan.one] using unread

theorem char (expected : Char) : (char expected).RefusesByDigit :=
  one _

theorem andThen_many (left : first.RefusesByDigit) (accepts : Char → Bool) :
    (first.andThen (many accepts)).RefusesByDigit := by
  have unread_iff (text : List Char) :
      first.andThen (many accepts) text = none ↔ first text = none := by
    rw [Scan.andThen]
    cases first text <;> simp [many]
  intro ahead back digit more decimal unread
  rw [unread_iff] at unread ⊢
  exact left more decimal unread

theorem some1 (accepts : Char → Bool) : (some1 accepts).RefusesByDigit :=
  (one accepts).andThen_many accepts

theorem charThen {expected : Char}
    (bare : Unicode.isDecimal expected = false)
    (right : second.RefusesByDigit) :
    ((Scan.char expected).andThen second).RefusesByDigit := by
  intro ahead back digit more decimal unread
  cases ahead with
  | nil =>
      have other : (digit == expected) = false := by
        rw [beq_eq_false_iff_ne]
        rintro rfl
        rw [decimal] at bare
        cases bare
      simp [Scan.andThen, Scan.char, Scan.one, other]
  | cons c ahead =>
      by_cases same : c = expected
      · subst same
        have refused : second (ahead ++ digit :: back) = none := by
          cases answer : second (ahead ++ digit :: back) with
          | none => rfl
          | some found =>
              simp [Scan.andThen, Scan.char, Scan.one, answer] at unread
        simp [Scan.andThen, Scan.char, Scan.one, right more decimal refused]
      · simp [Scan.andThen, Scan.char, Scan.one, same]

theorem word {expected : List Char}
    (bare : ∀ c ∈ expected, Unicode.isDecimal c = false) :
    (word expected).RefusesByDigit := by
  induction expected with
  | nil =>
      intro ahead back digit more _ unread
      cases unread
  | cons c expected ih =>
      rw [List.forall_mem_cons] at bare
      exact charThen bare.1 (ih bare.2)

theorem orElse (left : first.RefusesByDigit) (right : second.RefusesByDigit) :
    (first.orElse second).RefusesByDigit := by
  intro ahead back digit more decimal unread
  rw [Scan.orElse] at unread ⊢
  cases answer : first (ahead ++ digit :: back) with
  | some found => simp [answer] at unread
  | none =>
      simp only [answer] at unread
      simp only [left more decimal answer]
      exact right more decimal unread

theorem lineBreak : (Scan.word ['\r', '\n']).RefusesByDigit :=
  word (List.forall_mem_cons.mpr
    ⟨by decide, List.forall_mem_singleton.mpr (by decide)⟩)

theorem lineEnd : lineEnd.RefusesByDigit :=
  lineBreak.orElse (.char '\n')

end RefusesByDigit

/-! ### What is read -/

namespace BoundedByDigit

theorem of_onward {takes : Char → Bool} (cuts : scan.CutsBehind)
    (onward : scan.Onward takes) : scan.BoundedByDigit := by
  intro text lexeme ahead back digit more _ read
  have whole := onward more (cuts read) (fun empty => by simp at empty)
  simpa using whole

theorem of_rigid (cuts : scan.Cuts) (rigid : scan.Rigid) :
    scan.BoundedByDigit :=
  have onward : scan.Onward fun _ => false := rigid.onward
  of_onward cuts.behind onward

theorem char (expected : Char) : (char expected).BoundedByDigit :=
  of_rigid (.char expected) (.char expected)

theorem some1 (accepts : Char → Bool) : (some1 accepts).BoundedByDigit :=
  of_onward (Cuts.some1 accepts).behind (Onward.some1 fun _ => id)

theorem andThen (left : first.BoundedByDigit) (right : second.BoundedByDigit)
    (faithful : second.Faithful) : (first.andThen second).BoundedByDigit := by
  intro text lexeme ahead back digit more decimal read
  obtain ⟨front, middle, last, readFirst, readSecond, rfl⟩ :=
    andThen_eq_some_iff.mp read
  obtain rfl := faithful readSecond
  rw [← List.append_assoc] at readFirst
  have begun := left more decimal readFirst
  rw [List.append_assoc last] at begun
  rw [List.append_assoc]
  exact andThen_eq_some_iff.mpr
    ⟨front, _, last, begun, right more decimal readSecond, rfl⟩

theorem before {seen : List Char → Bool} (bounded : scan.BoundedByDigit)
    (near : ∀ c rest, seen (c :: rest) = seen [c]) :
    (scan.before seen).BoundedByDigit := by
  intro text lexeme ahead back digit more decimal read
  obtain ⟨answer, fits⟩ := before_eq_some_iff.mp read
  refine before_eq_some_iff.mpr ⟨bounded more decimal answer, ?_⟩
  cases ahead with
  | nil => rwa [List.nil_append, near] at fits ⊢
  | cons c ahead => rwa [List.cons_append, near] at fits ⊢

theorem orElse (left : first.BoundedByDigit) (refuses : first.RefusesByDigit)
    (right : second.BoundedByDigit) (faithful : second.Faithful) :
    (first.orElse second).BoundedByDigit := by
  intro text lexeme ahead back digit more decimal read
  rw [Scan.orElse] at read ⊢
  cases answer : first text with
  | some found =>
      simp only [answer] at read
      rw [read] at answer
      simp only [left more decimal answer]
  | none =>
      simp only [answer] at read
      rw [faithful read, ← List.append_assoc] at answer
      have unread := refuses more decimal answer
      rw [List.append_assoc] at unread
      simp only [unread]
      exact right more decimal read

theorem optional (bounded : scan.BoundedByDigit)
    (refuses : scan.RefusesByDigit) : scan.optional.BoundedByDigit :=
  orElse bounded refuses (of_rigid (.word []) (.word []))
    (Faithful.word [])

theorem lineEnd : lineEnd.BoundedByDigit :=
  orElse (of_rigid (.word _) (.word _)) .lineBreak (char '\n')
    (Faithful.char _)

/-- The line end behind a trigger or a directive is told from other text by two
characters, and none of them is a digit. -/
theorem absorbing (bounded : scan.BoundedByDigit) :
    scan.absorbing.BoundedByDigit :=
  bounded.andThen (lineEnd.optional .lineEnd)
    (Faithful.optional Faithful.lineEnd)

theorem number : number.BoundedByDigit := by
  have fraction : ((Scan.char '.').andThen digits).BoundedByDigit :=
    (char '.').andThen (some1 _) (Faithful.some1 _)
  have refuses : ((Scan.char '.').andThen digits).RefusesByDigit :=
    .charThen (by decide) (.some1 _)
  have faithful : ((Scan.char '.').andThen digits).Faithful :=
    Faithful.andThen (Faithful.char _) (Faithful.some1 _)
  exact ((char '-').optional (.char '-')).andThen
    ((some1 _).andThen (fraction.optional refuses)
      (Faithful.optional faithful))
    (Faithful.andThen (Faithful.some1 _) (Faithful.optional faithful))

theorem plainName : plainName.BoundedByDigit :=
  of_onward (Cuts.named _).behind (Onward.named fun _ => id)

end BoundedByDigit

/-! ### Names behind a path -/

theorem identifier_eq_none_iff {text : List Char} :
    identifier text = none ↔ plainName text = none := by
  have plain {left : List Char} (start : left.head?.any isNameStart = true) :
      plainName left ≠ none := by
    cases left with
    | nil => cases start
    | cons c left =>
        have begins : isNameStart c = true := start
        simp [plainName, Scan.andThen, Scan.one, Scan.many, begins]
  constructor
  · intro unread
    rw [identifier] at unread
    split at unread
    · exact unread
    · split at unread
      · exact unread
      · cases unread
  · intro unread
    rw [identifier]
    split
    · exact unread
    · rename_i step rest read
      obtain ⟨_, _, first⟩ := exists_of_andThen read
      obtain ⟨c, upper, _, rfl⟩ := one_eq_some_iff.mp first
      exact absurd unread (plain (isNameStart_of_isUppercaseLetter upper))

theorem RefusesByDigit.identifier : RefusesByDigit identifier := by
  have plain : plainName.RefusesByDigit := (one isNameStart).andThen_many _
  intro ahead back digit more decimal unread
  rw [identifier_eq_none_iff] at unread ⊢
  exact plain more decimal unread

theorem plainName_of_isModule {word : List Char} (isModule : IsModule word)
    (rest : List Char) :
    plainName (word ++ '.' :: rest) = some (word, '.' :: rest) := by
  obtain ⟨first, others, rfl, upper, letters⟩ := isModule
  have isWord : IsWord (first :: others) :=
    ⟨first, others, rfl, isNameStart_of_isUppercaseLetter upper,
      fun c member => isNameChar_of_isWord (letters c member)⟩
  exact read_of_spelled isWord rfl

/-- A name is read alone if no name follows the step that begins with it.  Such a
step ends in front of the digit, so that it is there whatever stands behind. -/
theorem identifier_of_plainName {text lexeme ahead back : List Char}
    {digit : Char} (more : List Char)
    (decimal : Unicode.isDecimal digit = true)
    (name : plainName text = some (lexeme, ahead ++ digit :: back))
    (step : ∀ word left, moduleStep text = some (word ++ ['.'], left) →
      identifier left = none) :
    identifier (lexeme ++ (ahead ++ digit :: more)) =
      some (lexeme, ahead ++ digit :: more) := by
  have textEq := Faithful.plainName name
  have longer := BoundedByDigit.plainName more decimal name
  rw [identifier]
  split
  · exact longer
  · rename_i _ rest found
    obtain ⟨word, isModule, rfl⟩ := spelled_of_moduleStep found
    have whole := Faithful.moduleStep found
    rw [List.append_assoc, List.singleton_append] at whole
    have same := longer
    rw [whole, plainName_of_isModule isModule, Option.some.injEq,
      Prod.mk.injEq] at same
    obtain ⟨rfl, behind⟩ := same
    cases ahead with
    | nil =>
        obtain ⟨rfl, _⟩ := List.cons.inj behind
        cases decimal
    | cons point ahead =>
        rw [List.cons_append, List.cons.injEq] at behind
        obtain ⟨rfl, rfl⟩ := behind
        have before := read_moduleStep isModule (ahead ++ digit :: back)
        rw [← List.cons_append, ← textEq] at before
        have unread := RefusesByDigit.identifier more decimal (step _ _ before)
        simp only [unread]
        exact longer

theorem BoundedByDigit.identifier : BoundedByDigit identifier := by
  intro text lexeme ahead back digit more decimal read
  fun_induction Scan.identifier text generalizing lexeme ahead with
  | case1 text unread =>
      refine identifier_of_plainName more decimal read fun word left found => ?_
      rw [unread] at found
      cases found
  | case2 text step left stepRead unread _ =>
      refine identifier_of_plainName more decimal read fun word left' found => ?_
      rw [stepRead] at found
      cases found
      exact unread
  | case3 text step left stepRead name tail nameRead ih =>
      cases read
      obtain ⟨word, isModule, rfl⟩ := spelled_of_moduleStep stepRead
      have begun := read_moduleStep isModule (name ++ (ahead ++ digit :: more))
      have later := ih nameRead
      rw [List.append_assoc, List.append_assoc, List.singleton_append,
        Scan.identifier]
      split
      · rename_i unread
        rw [begun] at unread
        cases unread
      · rename_i found
        rw [begun] at found
        cases found
        rw [later]

end Scan

namespace Terminal

open Scan

/-- What a terminal reads in front of a digit, it reads whatever stands behind the
digit. -/
theorem boundedByDigit_scan (terminal : Terminal) (triggers : Triggers) :
    (terminal.scan triggers).BoundedByDigit := by
  have word (expected : List Char) : (Scan.word expected).BoundedByDigit :=
    .of_rigid (.word expected) (.word expected)
  have closing (blank : Char → Bool) :
      (blanksThen blank (char '}')).BoundedByDigit :=
    .of_rigid (.blanksThen _ (.char '}') (Faithful.char _))
      (.blanksThen blank '}')
  cases terminal with
  | literal => exact .some1 _
  | valueClose => exact closing _
  | valueEscape => exact word _
  | valueAtLineEnd => exact (BoundedByDigit.char _).before fun _ _ => rfl
  | valueBare => exact (BoundedByDigit.char _).before fun _ _ => rfl
  | controlClose => exact (closing _).absorbing
  | controlEscape => exact (word _).absorbing
  | controlBare =>
      exact ((BoundedByDigit.char _).before fun _ _ => rfl).absorbing
  | number => exact .number
  | identifier => exact .identifier
  | _ =>
      exact .of_onward (cutsBehind_scan _ triggers) (onward_scan rfl rfl)

end Terminal

end TemplateSyntax
