import Mathlib.Data.Bool.Basic
import Mathlib.Data.List.TakeWhile
import PathRouting.Url.Base

/-!
Authorities of URLs, and the characters that base URLs are made of.

An authority ends at a separator: a slash, a question mark or a number sign. The host of a base is
part of an authority, so none may stand in it. Main statements: `authority_append` (the authority of
a URL that was put together) and `Base.apart_of_parse` (what a base consists of, however it was
written).
-/

namespace PathRouting.Url

open PathRouting.Text

/-! ### Separators -/

/-- Whether the authority of a URL ends before the character. -/
def isSeparator (c : Char) : Bool :=
  c = '/' || c = '?' || c = '#'

/-- Whether no authority ends within the text. -/
def isUndivided (cs : List Char) : Bool :=
  cs.all fun c => !isSeparator c

theorem isUndivided_iff {cs : List Char} :
    isUndivided cs = true ↔ ∀ c ∈ cs, isSeparator c = false := by
  simp [isUndivided]

theorem isUndivided_append {cs ds : List Char} :
    isUndivided (cs ++ ds) = true ↔ isUndivided cs = true ∧ isUndivided ds = true := by
  simp [isUndivided]

/-- No separator stands in a text of which every character was checked to be none. -/
theorem isUndivided_of_any {cs : List Char} {isRefused : Char → Bool}
    (refused : ∀ c ∈ ['/', '?', '#'], isRefused c = true) (h : cs.any isRefused = false) :
    isUndivided cs = true := by
  rw [isUndivided_iff]
  intro c mem
  cases separator : isSeparator c with
  | false => rfl
  | true =>
    have listed : c ∈ ['/', '?', '#'] := by simpa [isSeparator, or_assoc] using separator
    exact absurd (refused c listed) (List.any_eq_false.mp h c mem)

theorem isUndivided_joinPieces {sep : List Char} {ps : List (List Char)}
    (between : isUndivided sep = true) (inside : ∀ p ∈ ps, isUndivided p = true) :
    isUndivided (joinPieces sep ps) = true := by
  rw [isUndivided_iff]
  intro c mem
  rcases mem_joinPieces mem with mem | ⟨p, member, mem⟩
  · exact isUndivided_iff.mp between c mem
  · exact isUndivided_iff.mp (inside p member) c mem

theorem isUndivided_intercalate {sep : String} {parts : List String}
    (between : isUndivided sep.toList = true)
    (inside : ∀ part ∈ parts, isUndivided part.toList = true) :
    isUndivided (sep.intercalate parts).toList = true := by
  rw [String.toList_intercalate, ← joinPieces_eq_intercalate]
  refine isUndivided_joinPieces between ?_
  intro p member
  obtain ⟨part, given, rfl⟩ := List.mem_map.mp member
  exact inside part given

/-! ### Authorities -/

/-- What follows the first `://` of a text, and nothing where there is none. -/
def afterMark : List Char → List Char
  | ':' :: '/' :: '/' :: rest => rest
  | _ :: rest => afterMark rest
  | [] => []

/-- The authority of a URL: what stands between the first `://` and the first separator behind. -/
def authority (url : String) : String :=
  String.ofList ((afterMark url.toList).takeWhile fun c => !isSeparator c)

theorem afterMark_append {cs : List Char} (h : ':' ∉ cs) (rest : List Char) :
    afterMark (cs ++ ':' :: '/' :: '/' :: rest) = rest := by
  induction cs with
  | nil => rfl
  | cons c cs ih =>
    obtain ⟨other, later⟩ := not_or.mp (List.mem_cons.not.mp h)
    rw [List.cons_append]
    unfold afterMark
    split
    · next eq => exact absurd (List.cons.inj eq).1.symm other
    · next eq =>
      obtain ⟨-, rfl⟩ := List.cons.inj eq
      exact ih later
    · next eq => cases eq

/-- The authority of a URL starts where its scheme ends. -/
theorem authority_append {scheme : String} (h : ':' ∉ scheme.toList) (rest : String) :
    (authority (scheme ++ "://" ++ rest)).toList =
      rest.toList.takeWhile fun c => !isSeparator c := by
  have text : (scheme ++ "://" ++ rest).toList =
      scheme.toList ++ ':' :: '/' :: '/' :: rest.toList := by
    simp
  unfold authority
  rw [String.toList_ofList, text, afterMark_append h]

theorem takeWhile_append_of_isUndivided {cs : List Char} (h : isUndivided cs = true)
    (rest : List Char) :
    (cs ++ rest).takeWhile (fun c => !isSeparator c) =
      cs ++ rest.takeWhile fun c => !isSeparator c :=
  List.takeWhile_append_of_pos fun c mem => by simp [isUndivided_iff.mp h c mem]

/-- Nothing of what follows a text belongs to its first part if this part ends within the text. -/
theorem takeWhile_append_of_divided {cs : List Char} (h : isUndivided cs = false)
    (rest : List Char) :
    (cs ++ rest).takeWhile (fun c => !isSeparator c) = cs.takeWhile fun c => !isSeparator c := by
  rw [List.takeWhile_append, if_neg]
  intro whole
  have same := (List.takeWhile_prefix fun c => !isSeparator c).eq_of_length whole
  have undivided : isUndivided cs = true :=
    List.all_eq_true.mpr (List.takeWhile_eq_self_iff.mp same)
  rw [h] at undivided
  cases undivided

/-! ### Addresses -/

theorem exists_digit_of_mem_toDigits {base n : Nat} (large : 1 < base) {c : Char}
    (mem : c ∈ Nat.toDigits base n) : ∃ d < base, c = Nat.digitChar d := by
  induction n using Nat.strongRecOn with
  | ind n ih =>
    by_cases small : n < base
    · rw [Nat.toDigits_of_lt_base small, List.mem_singleton] at mem
      exact ⟨n, small, mem⟩
    · rw [Nat.toDigits_of_base_le large (by omega), List.mem_append, List.mem_singleton] at mem
      rcases mem with earlier | last
      · exact ih _ (Nat.div_lt_self (by omega) large) earlier
      · exact ⟨n % base, Nat.mod_lt _ (by omega), last⟩

theorem isUndivided_toDigits {base : Nat} (large : 1 < base) (few : base ≤ 16) (n : Nat) :
    isUndivided (Nat.toDigits base n) = true := by
  have digit : ∀ d < 16, isSeparator (Nat.digitChar d) = false := by decide
  rw [isUndivided_iff]
  intro c mem
  obtain ⟨d, small, rfl⟩ := exists_digit_of_mem_toDigits large mem
  exact digit d (by omega)

theorem isUndivided_toString (n : Nat) : isUndivided (toString n).toList = true := by
  rw [Nat.toString_eq_repr, Nat.toList_repr]
  exact isUndivided_toDigits (by decide) (by decide) n

theorem isUndivided_ipv4 (address : Nat) : isUndivided (Ipv4.text address).toList = true := by
  refine isUndivided_intercalate rfl ?_
  intro part mem
  obtain ⟨i, -, rfl⟩ := List.mem_map.mp mem
  exact isUndivided_toString _

theorem isUndivided_groupsText (groups : List Nat) :
    isUndivided (Ipv6.groupsText groups).toList = true := by
  refine isUndivided_intercalate rfl ?_
  intro part mem
  obtain ⟨group, -, rfl⟩ := List.mem_map.mp mem
  rw [String.toList_ofList]
  exact isUndivided_toDigits (by decide) (by decide) group

theorem isUndivided_ipv6 (groups : List Nat) : isUndivided (Ipv6.text groups).toList = true := by
  unfold Ipv6.text
  dsimp only
  split
  · exact isUndivided_groupsText groups
  · rw [String.toList_append, String.toList_append]
    exact isUndivided_append.mpr ⟨isUndivided_append.mpr ⟨isUndivided_groupsText _, rfl⟩,
      isUndivided_groupsText _⟩

/-! ### Domains -/

namespace Domain.Punycode

theorem isUndivided_encodeNumber (bias weight n : Nat) :
    isUndivided (encodeNumber bias weight n) = true := by
  have plain : ∀ m < base, isSeparator (digit m) = false := by decide
  have least : 1 ≤ threshold weight bias := by unfold threshold; omega
  have most : threshold weight bias ≤ 26 := by unfold threshold; omega
  fun_induction encodeNumber bias weight n with
  | case1 weight n t small =>
    rw [isUndivided_iff]
    intro c mem
    obtain rfl := List.mem_singleton.mp mem
    exact plain n (by unfold base; omega)
  | case2 weight n t large ih =>
    have small : (n - t) % (base - t) < base - t := Nat.mod_lt _ (by unfold base; omega)
    have first : isSeparator (digit (t + (n - t) % (base - t))) = false :=
      plain _ (by unfold base at small ⊢; omega)
    unfold isUndivided at ih ⊢
    rw [List.all_cons, first, ih (by unfold threshold; omega) (by unfold threshold; omega)]
    rfl

theorem isUndivided_step {label : List Char} {basic : Nat} {w : Writing}
    (h : isUndivided w.text = true) (code : Nat) :
    isUndivided (w.step label basic code).text = true := by
  unfold Writing.step
  dsimp only
  refine List.foldlRecOn label _ (motive := fun w : Writing => isUndivided w.text = true) h ?_
  intro w h c _
  split
  · exact h
  · split
    · exact isUndivided_append.mpr ⟨h, isUndivided_encodeNumber ..⟩
    · exact h

/-- What is written for a label holds no separator if the label holds none. -/
theorem isUndivided_encode {label : List Char} (h : isUndivided label = true) :
    isUndivided (encode label) = true := by
  have basic : isUndivided (label.filter fun c => c.toNat < 128) = true := by
    rw [isUndivided_iff] at h ⊢
    intro c mem
    exact h c (List.mem_filter.mp mem).1
  unfold encode
  dsimp only
  refine List.foldlRecOn (beyondAscii label) _
    (motive := fun w : Writing => isUndivided w.text = true) ?_ ?_
  · dsimp only
    split
    · rfl
    · exact isUndivided_append.mpr ⟨basic, rfl⟩
  · intro w h code _
    exact isUndivided_step h code

end Domain.Punycode

theorem isUndivided_of_isDenied {cs : List Char} (h : cs.any Domain.isDenied = false) :
    isUndivided cs = true :=
  isUndivided_of_any (by simp [Domain.isDenied]) h

theorem isUndivided_of_isLabel {label : List Char} (h : Domain.isLabel label = true) :
    isUndivided label = true := by
  simp only [Domain.isLabel, Bool.and_eq_true, Bool.not_eq_true'] at h
  exact isUndivided_of_isDenied h.1.1

theorem isUndivided_encodeLabel {label : List Char} (h : isUndivided label = true) :
    isUndivided (Domain.encodeLabel label) = true := by
  unfold Domain.encodeLabel
  split
  · exact h
  · exact isUndivided_append.mpr ⟨by decide, Domain.Punycode.isUndivided_encode h⟩

/-- No domain in ASCII holds a separator: one that was plain was checked, and of one that was not
each label was. -/
theorem isUndivided_domain {bytes : List UInt8} {domain : List Char}
    (written : Domain.toAscii? bytes = some domain) : isUndivided domain = true := by
  obtain ⟨text, -, rest⟩ := Option.bind_eq_some_iff.mp written
  dsimp only at rest
  split at rest
  · split at rest
    · cases rest
    · next allowed =>
      obtain rfl := Option.some.inj rest
      exact isUndivided_of_isDenied (by simpa using allowed)
  · unfold Domain.ofChars? at rest
    obtain ⟨mapped, -, rest⟩ := Option.bind_eq_some_iff.mp rest
    obtain ⟨labels, -, rest⟩ := Option.bind_eq_some_iff.mp rest
    split at rest
    · cases rest
    · next allowed =>
      split at rest
      · cases rest
      · obtain rfl := Option.some.inj rest
        have labelled : ∀ label ∈ labels, Domain.isLabel label = true := by
          simpa using allowed
        refine isUndivided_joinPieces rfl ?_
        intro part mem
        obtain ⟨label, inside, rfl⟩ := List.mem_map.mp mem
        exact isUndivided_encodeLabel (isUndivided_of_isLabel (labelled label inside))

/-! ### Hosts -/

theorem isUndivided_bracketed {cs : List Char} {host : String}
    (parsed : Host.parseBracketed cs = .ok host) : isUndivided host.toList = true := by
  unfold Host.parseBracketed at parsed
  split at parsed
  · obtain rfl := Except.ok.inj parsed
    rw [String.toList_append, String.toList_append]
    exact isUndivided_append.mpr ⟨isUndivided_append.mpr ⟨rfl, isUndivided_ipv6 _⟩, rfl⟩
  · cases parsed

theorem isUndivided_parse {cs : List Char} {host : String} (parsed : Host.parse cs = .ok host) :
    isUndivided host.toList = true := by
  unfold Host.parse at parsed
  split at parsed
  · exact isUndivided_bracketed parsed
  · split at parsed
    · cases parsed
    · next domain written =>
      split at parsed
      · cases parsed
      · split at parsed
        · split at parsed
          · obtain rfl := Except.ok.inj parsed
            exact isUndivided_ipv4 _
          · cases parsed
        · obtain rfl := Except.ok.inj parsed
          rw [String.toList_ofList]
          exact isUndivided_domain written

/-- A byte below 128 in the UTF-8 form of a character is the character itself. -/
theorem ofNat_of_mem_utf8EncodeChar {c : Char} {b : UInt8} (mem : b ∈ String.utf8EncodeChar c)
    (ascii : b.toNat < 128) : Char.ofNat b.toNat = c := by
  have high : ∀ n, 128 ≤ n → n < 256 → ¬(UInt8.ofNat n).toNat < 128 := by
    intro n least most
    rw [UInt8.toNat_ofNat', Nat.mod_eq_of_lt most]
    omega
  unfold String.utf8EncodeChar at mem
  dsimp only at mem
  split at mem
  · obtain rfl := List.mem_singleton.mp mem
    have code : (UInt8.ofNat c.val.toNat).toNat = c.toNat := by
      rw [UInt8.toNat_ofNat', Nat.mod_eq_of_lt (by omega)]
      rfl
    rw [code, Char.ofNat_toNat]
  · -- Every byte of a longer form is at least 128.
    split at mem
    · simp only [List.mem_cons, List.not_mem_nil, or_false] at mem
      rcases mem with rfl | rfl
      all_goals exact absurd ascii (high _ (by omega) (by omega))
    · split at mem
      · simp only [List.mem_cons, List.not_mem_nil, or_false] at mem
        rcases mem with rfl | rfl | rfl
        all_goals exact absurd ascii (high _ (by omega) (by omega))
      · simp only [List.mem_cons, List.not_mem_nil, or_false] at mem
        rcases mem with rfl | rfl | rfl | rfl
        all_goals exact absurd ascii (high _ (by omega) (by omega))

/-- A host that is kept as it is written was checked, and percent codes hold no separator. -/
theorem isUndivided_parseOpaque {cs : List Char} {host : String}
    (parsed : Host.parseOpaque cs = .ok host) : isUndivided host.toList = true := by
  unfold Host.parseOpaque at parsed
  split at parsed
  · exact isUndivided_bracketed parsed
  · split at parsed
    · cases parsed
    · next allowed =>
      obtain rfl := Except.ok.inj parsed
      have plain : isUndivided cs = true :=
        isUndivided_of_any (by simp [Host.isForbidden]) (Bool.eq_false_of_not_eq_true allowed)
      have coded : ∀ n < 16, isSeparator (Percent.hexDigit n) = false := by decide
      rw [String.toList_ofList, Percent.utf8_ofList, isUndivided_iff]
      intro c mem
      obtain ⟨b, byte, mem⟩ := List.mem_flatMap.mp mem
      obtain ⟨d, inside, byte⟩ := List.mem_flatMap.mp byte
      have size := b.toNat_lt
      split at mem
      · next kept =>
        obtain rfl := List.mem_singleton.mp mem
        simp only [Host.isKept, Bool.and_eq_true, decide_eq_true_eq] at kept
        rw [ofNat_of_mem_utf8EncodeChar byte (by omega)]
        exact isUndivided_iff.mp plain d inside
      · simp only [Percent.escape, List.mem_cons, List.not_mem_nil, or_false] at mem
        rcases mem with rfl | rfl | rfl
        · rfl
        · exact coded _ (by omega)
        · exact coded _ (by omega)

/-! ### Bases -/

namespace Base

/-- What is checked once a host was read does not change it. -/
theorem eq_of_finish {found host : String} {after : List Char} {hasUser : Bool}
    {port : Option Nat}
    (h : (do
      if found.isEmpty && after.head? = some ':' then throw Fault.emptyHost
      let port ← readPort after
      if found.isEmpty && hasUser then throw Fault.emptyHost
      return (found, port)) = Except.ok (host, port)) : found = host := by
  simp only [bind, Except.bind, pure, Except.pure, throw, throwThe, MonadExceptOf.throw] at h
  split at h
  · cases h
  · split at h
    · cases h
    · split at h
      · cases h
      · exact (Prod.mk.inj (Except.ok.inj h)).1

theorem isUndivided_readAuthority {style : Style} {cs : List Char} {host : String}
    {port : Option Nat} (read : readAuthority style cs = .ok (host, port)) :
    isUndivided host.toList = true := by
  unfold readAuthority at read
  cases skipped : skipUser style cs with
  | error fault => rw [skipped] at read; cases read
  | ok skip =>
    rw [skipped] at read
    by_cases other : style = .other
    · subst other
      simp only [bind, Except.bind, if_true] at read
      cases parsed : Host.parseOpaque (splitHost .other false skip.2).1 with
      | error fault => rw [parsed] at read; cases read
      | ok found =>
        rw [parsed] at read
        obtain rfl := eq_of_finish read
        exact isUndivided_parseOpaque parsed
    · simp only [bind, Except.bind, if_neg other] at read
      split at read
      · cases read
      · cases parsed : Host.parse (splitHost style false skip.2).1 with
        | error fault => rw [parsed] at read; cases read
        | ok found =>
          rw [parsed] at read
          obtain rfl := eq_of_finish read
          exact isUndivided_parse parsed

theorem isUndivided_readFileHost {cs : List Char} {host : String}
    (read : readFileHost cs = .ok host) : isUndivided host.toList = true := by
  unfold readFileHost at read
  split at read
  · split at read
    · dsimp only at read
      split at read
      · cases read
      · split at read
        · cases read
        · next parsed =>
          split at read
          · cases read
          · obtain rfl := Except.ok.inj read
            exact isUndivided_parse parsed
    · cases read
  · cases read

theorem colon_notMem_of_splitScheme? {cs rest : List Char} {scheme : String}
    (split : splitScheme? cs = some (scheme, rest)) : ':' ∉ scheme.toList := by
  have lower : ∀ c : Char, c.toLower = ':' → c = ':' := by
    intro c h
    unfold Char.toLower at h
    split at h
    · have code : c.val + ('a'.val - 'A'.val) = ':'.val := congrArg Char.val h
      grind
    · exact h
  unfold splitScheme? at split
  dsimp only at split
  split at split
  · next c front after taken _ =>
    split at split
    · obtain ⟨rfl, -⟩ := Prod.mk.inj (Option.some.inj split)
      rw [← taken, String.toList_ofList]
      intro mem
      obtain ⟨d, inside, eq⟩ := List.mem_map.mp mem
      obtain rfl := lower d eq
      exact absurd (List.mem_takeWhile_imp inside) (by decide)
    · cases split
  · cases split

/-- The scheme of a base stands before a colon, and no separator stands in its host, however the URL
writes it. -/
theorem apart_of_parse {url : String} {base : Base} (parsed : parse url = .ok base) :
    ':' ∉ base.scheme.toList ∧ isUndivided base.host.toList = true := by
  unfold parse at parsed
  split at parsed
  · cases parsed
  · next scheme rest split =>
    have before := colon_notMem_of_splitScheme? split
    split at parsed
    · cases read : readFileHost rest with
      | error fault => rw [read] at parsed; cases parsed
      | ok host =>
        rw [read] at parsed
        obtain rfl := Except.ok.inj parsed
        exact ⟨before, isUndivided_readFileHost read⟩
    · next known _ =>
      cases read : readAuthority (.wellKnown known)
          (rest.dropWhile fun c => c = '/' || c = '\\') with
      | error fault => rw [read] at parsed; cases parsed
      | ok found =>
        rw [read] at parsed
        obtain rfl := Except.ok.inj parsed
        exact ⟨before, isUndivided_readAuthority read⟩
    · split at parsed
      · cases parsed
      · next authority _ =>
        cases read : readAuthority .other authority with
        | error fault => rw [read] at parsed; cases parsed
        | ok found =>
          rw [read] at parsed
          simp only [bind, Except.bind, pure, Except.pure, throw, throwThe,
            MonadExceptOf.throw] at parsed
          split at parsed
          · cases parsed
          · obtain rfl := Except.ok.inj parsed
            exact ⟨before, isUndivided_readAuthority read⟩

end Base

end PathRouting.Url
