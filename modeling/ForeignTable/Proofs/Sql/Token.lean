import ForeignTable.Sql.Name

/-! Tokens of statement texts. A reader takes a text apart into key words, punctuation,
placeholders and names. It knows a word by its longest run of letters, and a quote in quotes
by its being doubled, so a token ends where something stands that cannot go on with it. What
is written as an identifier is one token, whatever characters the name has. -/

set_option autoImplicit false

namespace ForeignTable.Sql

inductive Keyword where
  | SELECT
  | NULL
  | FROM
  | INSERT
  | INTO
  | DEFAULT
  | VALUES
  | ON
  | CONFLICT
  | DO
  | NOTHING
  | UPDATE
  | SET
  | WHERE
  | DELETE
deriving DecidableEq

def Keyword.spelling : Keyword → String
  | SELECT => "SELECT"
  | NULL => "NULL"
  | FROM => "FROM"
  | INSERT => "INSERT"
  | INTO => "INTO"
  | DEFAULT => "DEFAULT"
  | VALUES => "VALUES"
  | ON => "ON"
  | CONFLICT => "CONFLICT"
  | DO => "DO"
  | NOTHING => "NOTHING"
  | UPDATE => "UPDATE"
  | SET => "SET"
  | WHERE => "WHERE"
  | DELETE => "DELETE"

def Keyword.all : List Keyword :=
  [SELECT, NULL, FROM, INSERT, INTO, DEFAULT, VALUES, ON, CONFLICT, DO, NOTHING, UPDATE, SET,
    WHERE, DELETE]

/-- The pieces of a statement. A name is the identifier itself, without its quotes. -/
inductive Token where
  | keyword (word : Keyword)
  | name (name : String)
  | point
  | comma
  | opening
  | closing
  | equals
  | placeholder
deriving DecidableEq

def Token.ofMark? : Char → Option Token
  | '.' => some .point
  | ',' => some .comma
  | '(' => some .opening
  | ')' => some .closing
  | '=' => some .equals
  | '?' => some .placeholder
  | _ => none

def isSmall (c : Char) : Bool := ('a' ≤ c && c ≤ 'z') || c == '_'

/-- The words that may be names: a small letter or an underscore in front, then digits too. -/
def isNameShaped : List Char → Bool
  | [] => false
  | first :: more => isSmall first && more.all fun c => isSmall c || ('0' ≤ c && c ≤ '9')

/-- The token of a word: a name that is not reserved, or else a key word. -/
def Token.ofWord? (letters : List Char) : Option Token :=
  let word := String.ofList letters
  if isNameShaped letters && !reservedWords.contains word then some (.name word)
  else (Keyword.all.find? fun keyword => keyword.spelling == word).map .keyword

def isWordCharacter (c : Char) : Bool := c.isAlphanum || c == '_'

/-- What has been read of a token. -/
inductive Unfinished where
  | nothing
  | mark (token : Token)
  | word (letters : List Char)
  /-- Inside quotes. -/
  | quoted (name : List Char)
  /-- Behind a quote that ends the name, unless one more follows. -/
  | unquoted (name : List Char)

namespace Unfinished

def extend? : Unfinished → Char → Option Unfinished
  | word letters, c => if isWordCharacter c then some (word (letters ++ [c])) else none
  | quoted name, c => if c = '"' then some (unquoted name) else some (quoted (name ++ [c]))
  | unquoted name, c => if c = '"' then some (quoted (name ++ [c])) else none
  | _, _ => none

/-- The token that starts with a character; a blank starts none. -/
def start? (c : Char) : Option Unfinished :=
  if c = ' ' then some nothing
  else if c = '"' then some (quoted [])
  else if isWordCharacter c then some (word [c])
  else (Token.ofMark? c).map mark

def finish? : Unfinished → Option (List Token)
  | nothing => some []
  | mark token => some [token]
  | word letters => (Token.ofWord? letters).map ([·])
  | quoted _ => none
  | unquoted name => some [.name (String.ofList name)]

/-- The tokens of a text behind what has been read before it. -/
def tokens? (read : Unfinished) : List Char → Option (List Token)
  | [] => read.finish?
  | c :: rest =>
      match read.extend? c with
      | some longer => longer.tokens? rest
      | none => do
          let finished ← read.finish?
          let others ← (start? c).bind fun next => next.tokens? rest
          return finished ++ others

end Unfinished

/-- The text is read to its end, as these tokens. -/
def Reads (text : List Char) (tokens : List Token) : Prop :=
  Unfinished.nothing.tokens? text = some tokens

/-- The text starts with nothing that a name or a key word could go on with. -/
def Delimits (text : List Char) : Prop :=
  ∀ c ∈ text.head?, isWordCharacter c = false ∧ c ≠ '"'

namespace Unfinished

private theorem tokens?_of_extend? {read longer : Unfinished} {c : Char}
    (goes : read.extend? c = some longer) (rest : List Char) :
    read.tokens? (c :: rest) = longer.tokens? rest := by
  simp only [tokens?, goes]

private theorem tokens?_of_finish?_cons {read : Unfinished} {finished : List Token} {c : Char}
    (ends : read.extend? c = none) (complete : read.finish? = some finished) (rest : List Char) :
    read.tokens? (c :: rest) =
      ((start? c).bind fun next => next.tokens? rest).map (finished ++ ·) := by
  simp only [tokens?, ends, complete, Option.bind_eq_bind, Option.bind_some]
  exact Option.map_eq_bind.symm

/-- What is complete is read on its own, as soon as nothing goes on with it. -/
theorem tokens?_of_finish? {read : Unfinished} {finished : List Token} {rest : List Char}
    (complete : read.finish? = some finished)
    (ends : ∀ c ∈ rest.head?, read.extend? c = none) :
    read.tokens? rest = (nothing.tokens? rest).map (finished ++ ·) := by
  cases rest with
  | nil => simpa [tokens?, finish?] using complete
  | cons c rest =>
      rw [tokens?_of_finish?_cons (ends c rfl) complete, tokens?_of_finish?_cons rfl rfl]
      simp

private theorem extend?_of_delimits {read : Unfinished} {finished : List Token} {rest : List Char}
    (complete : read.finish? = some finished) (delimits : Delimits rest) :
    ∀ c ∈ rest.head?, read.extend? c = none := by
  intro c first
  obtain ⟨word, quote⟩ := delimits c first
  cases read with
  | nothing | mark => rfl
  | word letters => simp [extend?, word]
  | quoted name => cases complete
  | unquoted name => simp [extend?, quote]

private theorem delimits_of_start? {c : Char} {token : Token}
    (starts : start? c = some (.mark token)) :
    isWordCharacter c = false ∧ c ≠ '"' := by
  unfold start? at starts
  split at starts
  · cases starts
  · split at starts
    · cases starts
    · rename_i quote
      split at starts
      · cases starts
      · rename_i word
        exact ⟨Bool.eq_false_iff.mpr word, quote⟩

/-- A text that is read to its end is read the same before anything that delimits it. -/
theorem tokens?_append {read : Unfinished} {left right : List Char} {tokens : List Token}
    (complete : read.tokens? left = some tokens) (delimits : Delimits right) :
    read.tokens? (left ++ right) = (nothing.tokens? right).map (tokens ++ ·) := by
  -- what has been read changes with every character, and only the last of it meets `right`
  induction left generalizing read tokens with
  | nil => exact tokens?_of_finish? complete (extend?_of_delimits complete delimits)
  | cons c left ih =>
      rw [List.cons_append]
      cases goes : read.extend? c with
      | some longer =>
          rw [tokens?_of_extend? goes] at complete ⊢
          exact ih complete
      | none =>
          simp only [tokens?, goes, Option.bind_eq_bind, Option.bind_eq_some_iff] at complete
          obtain ⟨finished, done, others, ⟨next, starts, behind⟩, shape⟩ := complete
          cases shape
          rw [tokens?_of_finish?_cons goes done, starts, Option.bind_some, ih behind,
            Option.map_map]
          simp only [Function.comp_def, List.append_assoc]

private theorem tokens?_word {letters more : List Char}
    (word : ∀ c ∈ more, isWordCharacter c = true) :
    (Unfinished.word letters).tokens? more = (Token.ofWord? (letters ++ more)).map ([·]) := by
  induction more generalizing letters with
  | nil => rw [List.append_nil, tokens?, finish?]
  | cons c more ih =>
      have goes : (Unfinished.word letters).extend? c =
          some (.word (letters ++ [c])) := if_pos (word c List.mem_cons_self)
      rw [tokens?_of_extend? goes, ih fun other member => word other (.tail c member),
        List.append_assoc, List.singleton_append]

/-- Inside quotes a doubled quote belongs to the name, and the single one ends it. -/
theorem tokens?_doubled (before name : List Char) :
    (quoted before).tokens? (doubled '"' name ++ ['"']) =
      some [.name (String.ofList (before ++ name))] := by
  induction name generalizing before with
  | nil => simp [doubled, tokens?, extend?, finish?]
  | cons c name ih =>
      by_cases same : c = '"'
      · simp [doubled, tokens?, extend?, same, ih]
      · simp [doubled, tokens?, extend?, same, ih]

end Unfinished

theorem reads_nil : Reads [] [] := rfl

theorem Reads.append {left right : List Char} {leftTokens rightTokens : List Token}
    (leftReads : Reads left leftTokens) (rightReads : Reads right rightTokens)
    (delimits : Delimits right) : Reads (left ++ right) (leftTokens ++ rightTokens) := by
  unfold Reads
  rw [Unfinished.tokens?_append leftReads delimits, rightReads]
  rfl

theorem Reads.blank {text : List Char} {tokens : List Token} (reads : Reads text tokens) :
    Reads (' ' :: text) tokens := by
  unfold Reads
  rw [Unfinished.tokens?_of_finish?_cons rfl rfl]
  exact congrArg (Option.map _) reads

theorem Reads.mark {c : Char} {token : Token} {text : List Char} {tokens : List Token}
    (starts : Unfinished.start? c = some (.mark token)) (reads : Reads text tokens) :
    Reads (c :: text) (token :: tokens) := by
  unfold Reads
  rw [Unfinished.tokens?_of_finish?_cons rfl rfl, starts, Option.bind_some,
    Unfinished.tokens?_of_finish? rfl fun _ _ => rfl, reads]
  rfl

theorem Reads.spaced {left right : List Char} {leftTokens rightTokens : List Token}
    (leftReads : Reads left leftTokens) (rightReads : Reads right rightTokens) :
    Reads (left ++ ' ' :: right) (leftTokens ++ rightTokens) := by
  refine leftReads.append rightReads.blank ?_
  rintro c ⟨⟩
  decide

theorem Reads.marked {left right : List Char} {leftTokens rightTokens : List Token} {c : Char}
    {token : Token} (leftReads : Reads left leftTokens)
    (starts : Unfinished.start? c = some (.mark token)) (rightReads : Reads right rightTokens) :
    Reads (left ++ c :: right) (leftTokens ++ token :: rightTokens) := by
  refine leftReads.append (rightReads.mark starts) ?_
  rintro other ⟨⟩
  exact Unfinished.delimits_of_start? starts

/-- A name is written bare exactly where its word is read as a name. -/
theorem isBare_eq (letters : List Char) : isBare letters =
    (isNameShaped letters && !reservedWords.contains (String.ofList letters)) := by
  have continues : continuesBare = fun c => isSmall c || ('0' ≤ c && c ≤ '9') := by
    funext c
    exact Bool.or_right_comm c.isLower c.isDigit (c == '_')
  cases letters with
  | nil => rfl
  | cons first more =>
      unfold isBare isNameShaped
      rw [continues]
      rfl

private theorem isWordCharacter_of_continuesBare {c : Char} (continues : continuesBare c = true) :
    isWordCharacter c = true := by
  change (((c.isUpper || c.isLower) || c.isDigit) || c == '_') = true
  simp only [continuesBare, Bool.or_eq_true] at continues ⊢
  exact continues.imp_left (.imp_left .inr)

private theorem continuesBare_of_startsBare {c : Char} (starts : startsBare c = true) :
    continuesBare c = true := by
  simp only [startsBare, continuesBare, Bool.or_eq_true] at starts ⊢
  exact starts.imp_left .inl

private theorem reads_word {first : Char} {more : List Char} {token : Token}
    (starts : isWordCharacter first = true) (word : ∀ c ∈ more, isWordCharacter c = true)
    (known : Token.ofWord? (first :: more) = some token) : Reads (first :: more) [token] := by
  have next : Unfinished.start? first = some (.word [first]) := by
    unfold Unfinished.start?
    rw [if_neg (by rintro rfl; revert starts; decide),
      if_neg (by rintro rfl; revert starts; decide), if_pos starts]
  unfold Reads
  rw [Unfinished.tokens?_of_finish?_cons rfl rfl, next, Option.bind_some,
    Unfinished.tokens?_word word, List.singleton_append, known]
  rfl

/-- An identifier is one token, the name itself, bare or enclosed. -/
theorem reads_identifier (name : String) : Reads (identifier name) [.name name] := by
  unfold identifier
  split
  · rename_i bare
    have known : Token.ofWord? name.toList = some (.name name) := by
      rw [isBare_eq] at bare
      unfold Token.ofWord?
      dsimp only
      rw [if_pos bare, String.ofList_toList]
    cases letters : name.toList with
    | nil =>
        rw [letters] at bare
        cases bare
    | cons first more =>
        rw [letters] at bare known
        simp only [isBare, Bool.and_eq_true, List.all_eq_true] at bare
        have starts := continuesBare_of_startsBare bare.1.1
        exact reads_word (isWordCharacter_of_continuesBare starts)
          (fun c member => isWordCharacter_of_continuesBare (bare.1.2 c member)) known
  · have inner := Unfinished.tokens?_doubled [] name.toList
    rw [List.nil_append, String.ofList_toList] at inner
    unfold Reads enclosed
    rw [Unfinished.tokens?_of_finish?_cons rfl rfl]
    exact congrArg (Option.map _) inner

theorem reads_keyword (word : Keyword) : Reads word.spelling.toList [.keyword word] := by
  cases word <;> rfl

end ForeignTable.Sql
