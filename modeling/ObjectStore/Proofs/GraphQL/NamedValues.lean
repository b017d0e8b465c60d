import Mathlib
import ObjectStore.Proofs.GraphQL.Tokens

/-! # Named values

A colon gives a value to the name before it: an argument between round brackets, or an entry of a
mapping between braces. What a text gives to one name, at whatever place, is found from its tokens
alone, together with the brackets that are open there.

* `namedValues`: what some tokens give to a name.
* `Says`: what some characters give to a name wherever they stand, `Silent`: that they give nothing
  to it. There is one lemma for each way in which texts are put together. -/

namespace ObjectStore.GraphQL

/-! ## Values of a name -/

/-- The brackets, opening and closing. -/
def brackets : List (Char × Char) := [('(', ')'), ('[', ']'), ('\x7b', '\x7d')]

/-- The brackets that are open after a token, given those `opened` before it, the innermost
first. -/
def openAfter (opened : List Char) : Token → List Char
  | .mark c =>
    if brackets.any (·.1 == c) then c :: opened
    else if brackets.any (·.2 == c) then opened.tail
    else opened
  | _ => opened

variable {a b : Char}

/-- `openAfter opened (.mark a) = a :: opened`: an opening bracket is open after itself. -/
theorem openAfter_opening (h : (a, b) ∈ brackets) (opened : List Char) :
    openAfter opened (.mark a) = a :: opened := by
  simp only [brackets, List.mem_cons, Prod.mk.injEq, List.not_mem_nil, or_false] at h
  rcases h with ⟨rfl, rfl⟩ | ⟨rfl, rfl⟩ | ⟨rfl, rfl⟩ <;> rfl

/-- `openAfter (a :: opened) (.mark b) = opened`: A closing bracket closes the innermost open
one. -/
theorem openAfter_closing (h : (a, b) ∈ brackets) (opened : List Char) :
    openAfter (a :: opened) (.mark b) = opened := by
  simp only [brackets, List.mem_cons, Prod.mk.injEq, List.not_mem_nil, or_false] at h
  rcases h with ⟨rfl, rfl⟩ | ⟨rfl, rfl⟩ | ⟨rfl, rfl⟩ <;> rfl

/-- `ReadsAs (a :: (cs ++ [b]))`: characters between brackets are read as their tokens between those
of the brackets. -/
theorem ReadsAs.bracketed {cs : List Char} {ts : List Token} (hab : (a, b) ∈ brackets)
    (h : ReadsAs cs ts) : ReadsAs (a :: (cs ++ [b])) (.mark a :: (ts ++ [.mark b])) := by
  simp only [brackets, List.mem_cons, Prod.mk.injEq, List.not_mem_nil, or_false] at hab
  rcases hab with ⟨rfl, rfl⟩ | ⟨rfl, rfl⟩ | ⟨rfl, rfl⟩ <;>
    exact .mark rfl (h.append (by decide) (.mark rfl .nil))

/-- The value that `t` gets, if it is `name` and a colon follows in `ts`: the text of a string, or
none for what is not a string. -/
def valueAt? (name : List Char) (t : Token) (ts : List Token) : Option (Option String) :=
  if t = .word name ∧ ts.head? = some (.mark ':') then some (ts.tail.head?.bind Token.text?)
  else none

/-- What some tokens give to `name`, each value with the brackets that are open there. -/
def namedValues (name : List Char) : List Char → List Token → List (List Char × Option String)
  | _, [] => []
  | opened, t :: ts =>
    ((valueAt? name t ts).map (opened, ·)).toList ++ namedValues name (openAfter opened t) ts

variable {name : List Char} {opened : List Char} {t : Token} {ts : List Token}

/-- `namedValues name opened [] = []`: no tokens give nothing to a name. -/
@[simp] theorem namedValues_nil (name opened : List Char) : namedValues name opened [] = [] := rfl

/-- `namedValues name opened (t :: ts)`: A token that is not the name gives nothing to it. -/
theorem namedValues_cons_of_ne (h : t ≠ .word name) :
    namedValues name opened (t :: ts) = namedValues name (openAfter opened t) ts := by
  rw [namedValues, valueAt?, if_neg fun hname => h hname.1]
  rfl

/-- `namedValues name opened (.mark c :: ts)`: A mark gives nothing to a name, but may open or close
a bracket. -/
@[simp] theorem namedValues_mark (opened : List Char) (c : Char) (ts : List Token) :
    namedValues name opened (.mark c :: ts) = namedValues name (openAfter opened (.mark c)) ts :=
  namedValues_cons_of_ne fun h => nomatch h

/-- `namedValues name opened (.string raw :: ts)`: A string gives nothing to a name, whatever it
says. -/
@[simp] theorem namedValues_string (opened raw : List Char) (ts : List Token) :
    namedValues name opened (.string raw :: ts) = namedValues name opened ts :=
  namedValues_cons_of_ne fun h => nomatch h

/-- `namedValues name opened (.word w :: ts)`: another word gives nothing to a name. -/
theorem namedValues_word_of_ne (opened : List Char) {w : List Char} (h : w ≠ name)
    (ts : List Token) : namedValues name opened (.word w :: ts) = namedValues name opened ts :=
  namedValues_cons_of_ne fun hw => h (Token.word.inj hw)

/-- `namedValues name opened (.word w :: .mark c :: ts)`: A name with a mark other than a colon
behind it gets nothing. -/
theorem namedValues_word_mark (opened w : List Char) {c : Char} (hc : c ≠ ':') (ts : List Token) :
    namedValues name opened (.word w :: .mark c :: ts) =
      namedValues name opened (.mark c :: ts) := by
  have hnone : valueAt? name (.word w) (.mark c :: ts) = none :=
    if_neg fun h => hc (by simpa using h.2)
  rw [namedValues, hnone]
  rfl

/-- `namedValues name opened (ws.map .word ++ .mark c :: ts)`: words without colons give nothing to
a name, even if it is among them. -/
theorem namedValues_words (opened : List Char) (ws : List (List Char)) {c : Char} (hc : c ≠ ':')
    (ts : List Token) : namedValues name opened (ws.map .word ++ .mark c :: ts) =
      namedValues name opened (.mark c :: ts) := by
  induction ws with
  | nil => rfl
  | cons w ws ih =>
    -- Only the last word has a mark after it.
    cases ws with
    | nil => exact namedValues_word_mark opened w hc ts
    | cons w' ws =>
      have hnone : valueAt? name (.word w) ((w' :: ws).map .word ++ .mark c :: ts) = none :=
        if_neg fun h => by simp at h
      rw [← ih, List.map_cons, List.cons_append, namedValues, hnone]
      rfl

/-! ## Characters wherever they stand -/

variable {cs ds : List Char}

/-- What is given to a name, by the brackets that are open before it. -/
abbrev Found := List Char → List (List Char × Option String)

/-- That `cs` gives `found` to `name`, whatever brackets are open. -/
def Says (name cs : List Char) (found : Found) : Prop :=
  ∃ ts, ReadsAs cs ts ∧ ∀ opened rest,
    namedValues name opened (ts ++ rest) = found opened ++ namedValues name opened rest

/-- That `cs` gives nothing to `name`. -/
def Silent (name cs : List Char) : Prop := Says name cs fun _ => []

variable {found : Found}

/-- `Silent name []`. -/
theorem Silent.nil : Silent name [] := ⟨[], .nil, fun _ _ => rfl⟩

/-- `Says name (a :: (cs ++ [b]))`: characters between brackets say what they say, with one more
bracket open. -/
theorem Says.bracketed (hab : (a, b) ∈ brackets) (h : Says name cs found) :
    Says name (a :: (cs ++ [b])) fun opened => found (a :: opened) := by
  obtain ⟨ts, hreads, hfound⟩ := h
  refine ⟨_, hreads.bracketed hab, fun opened rest => ?_⟩
  rw [List.cons_append, namedValues_mark, openAfter_opening hab, List.append_assoc, hfound,
    List.singleton_append, namedValues_mark, openAfter_closing hab]

/-- A key, a colon and what is read as `ts` are read as the word, the mark and `ts`. -/
theorem readsAs_entry {key : List Char} (hne : key ≠ []) (hkey : ∀ c ∈ key, isWordChar c = true)
    (h : ReadsAs cs ts) : ReadsAs (key ++ ':' :: ' ' :: cs) (.word key :: .mark ':' :: ts) :=
  (ReadsAs.word hne hkey).append (by decide) (.mark rfl (.ignored rfl h))

/-- `Says name (key ++ ':' :: ' ' :: cs) found`: an entry under another key says what its value
says. -/
theorem Says.entry {key : List Char} (hne : key ≠ []) (hkey : ∀ c ∈ key, isWordChar c = true)
    (hname : key ≠ name) (h : Says name cs found) : Says name (key ++ ':' :: ' ' :: cs) found := by
  obtain ⟨ts, hreads, hfound⟩ := h
  refine ⟨_, readsAs_entry hne hkey hreads, fun opened rest => ?_⟩
  rw [List.cons_append, List.cons_append, namedValues_word_of_ne opened hname, namedValues_mark]
  exact hfound opened rest

/-- A text that is given to `name` is what it gets. -/
theorem Says.named (hne : name ≠ []) (hname : ∀ c ∈ name, isWordChar c = true)
    (text : List Char) : Says name (name ++ ':' :: ' ' :: Text.literal text)
      fun opened => [(opened, some (String.ofList text))] := by
  refine ⟨_, readsAs_entry hne hname (.literal text), fun opened rest => ?_⟩
  have hvalue : valueAt? name (.word name) (.mark ':' :: .string (Text.escapeChars text) :: rest) =
      some (some (String.ofList text)) := by
    rw [valueAt?, if_pos ⟨rfl, rfl⟩]
    exact congrArg some (Token.text?_escapeChars text)
  simp only [List.cons_append, List.nil_append]
  rw [namedValues, hvalue, namedValues_mark, namedValues_string]
  rfl

/-- `Says name (commaJoin pieces)`: pieces joined by commas say what each of them says. -/
theorem Says.commaJoin {pieces : List (List Char)} {founds : List Found}
    (h : List.Forall₂ (Says name) pieces founds) :
    Says name (GraphQL.commaJoin pieces) fun opened => founds.flatMap (· opened) := by
  induction h with
  | nil => exact Silent.nil
  | @cons piece found pieces founds hpiece hpieces ih =>
    cases hpieces with
    | nil => simpa [GraphQL.commaJoin] using hpiece
    | cons hnext hrest =>
      obtain ⟨ts, hreads, hfound⟩ := hpiece
      obtain ⟨us, hreads', hfound'⟩ := ih
      refine ⟨ts ++ us, hreads.append (by decide) (.ignored rfl (.ignored rfl hreads')),
        fun opened rest => ?_⟩
      rw [List.append_assoc, hfound, hfound', ← List.append_assoc]
      rfl

end ObjectStore.GraphQL
