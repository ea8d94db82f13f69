import Mathlib.Data.List.TakeWhile
import ContentTransport.Proofs.Text.Ascii
import ContentTransport.Url
/-!
# Url — a URL that is written from its parts reads back

The Host field leaves out the port that the scheme implies and puts a host with colons in brackets; reading a URL undoes
both, and lowers, cuts and checks as well.  A URL that is written from a scheme, a regular host, a port and a regular target
reads back as these (`written_url_reads_back`), unless the host stands in brackets and is no address, which is refused
(`colons_without_an_address`).
-/
namespace Transport
namespace Url

/-! ## Delimiters -/

theorem partition_of_not_mem {sep : Char} {cs : List Char} (h : sep ∉ cs) : partition sep cs = (cs, none) := by
  have hnil : cs.dropWhile (· != sep) = [] := by
    refine List.dropWhile_eq_nil_iff.2 fun c hc => ?_
    rw [bne_iff_ne]
    rintro rfl
    exact h hc
  unfold partition
  rw [hnil]

theorem partition_append {sep : Char} {before : List Char} (h : sep ∉ before) (after : List Char) :
    partition sep (before ++ sep :: after) = (before, some after) := by
  have hbefore : ∀ c ∈ before, (c != sep) = true := by
    intro c hc
    rw [bne_iff_ne]
    rintro rfl
    exact h hc
  have hdrop : (before ++ sep :: after).dropWhile (· != sep) = sep :: after := by
    rw [List.dropWhile_append_of_pos hbefore]
    simp
  have htake : (before ++ sep :: after).takeWhile (· != sep) = before := by
    rw [List.takeWhile_append_of_pos hbefore]
    simp
  unfold partition
  rw [hdrop, htake]

theorem hostPort_of_not_mem {cs : List Char} (h : '@' ∉ cs) : hostPort cs = cs := by
  have hall : cs.reverse.takeWhile (· != '@') = cs.reverse := by
    refine List.takeWhile_eq_self_iff.2 fun c hc => ?_
    rw [bne_iff_ne]
    rintro rfl
    exact h (List.mem_reverse.1 hc)
  unfold hostPort
  rw [hall, List.reverse_reverse]

/-! ## The Host field -/

/-- A host as an authority shows it. -/
def bracketed (host : List Char) : List Char := if ':' ∈ host then '[' :: (host ++ [']']) else host

/-- The digits of a port that is not the one that the scheme implies. -/
def portDigits (scheme : String) (port : Nat) : List Char :=
  if defaultPort? scheme = some port then [] else Nat.toDigits 10 port

/-- What follows a host: a colon and the digits of the port, if there are any. -/
def portMark : List Char → List Char
  | [] => []
  | d :: digits => ':' :: d :: digits

theorem portMark_of_ne_nil {digits : List Char} (some : digits ≠ []) : portMark digits = ':' :: digits := by
  obtain ⟨d, digits, rfl⟩ := List.exists_cons_of_ne_nil some
  rfl

theorem toDigits_ne_nil (n : Nat) : Nat.toDigits 10 n ≠ [] := by simp

theorem toList_hostField (host : String) (port : Nat) (scheme : String) : (hostField host (some port) scheme).toList
    = bracketed host.toList ++ portMark (portDigits scheme port) := by
  have hhost : (if host.toList.contains ':' then "[" ++ host ++ "]" else host).toList = bracketed host.toList := by
    unfold bracketed
    by_cases hcolon : ':' ∈ host.toList
    · rw [if_pos (List.contains_iff_mem.2 hcolon), if_pos hcolon]
      simp
    · rw [if_neg (fun h => hcolon (List.contains_iff_mem.1 h)), if_neg hcolon]
  have hdefault : (defaultPort? scheme).map (fun p => (p : Int)) = some (port : Int)
      ↔ defaultPort? scheme = some port := by
    cases defaultPort? scheme with
    | none => simp
    | some p =>
      change some (p : Int) = some (port : Int) ↔ _
      rw [Option.some.injEq, Option.some.injEq, Int.ofNat_inj]
  unfold hostField portDigits
  dsimp only
  by_cases hd : defaultPort? scheme = some port
  · rw [if_pos (hdefault.2 hd), if_pos hd, hhost]
    exact (List.append_nil _).symm
  · rw [if_neg (fun h => hd (hdefault.1 h)), if_neg hd, portMark_of_ne_nil (toDigits_ne_nil port)]
    rw [String.toList_append, String.toList_append, hhost]
    simp [toString, Int.repr]

/-! ## Regular parts -/

/-- The characters of a regular name. -/
def isNameChar (c : Char) : Bool := c.isLower || c.isDigit || c == '-' || c == '.' || c == '_' || c == '~'

/-- The characters of an address. -/
def isAddressChar (c : Char) : Bool := c.isDigit || ('a' ≤ c && c ≤ 'f') || c == ':' || c == '.'

/-- A host that is a name, or has the characters of an address and a colon among them. -/
inductive RegularHost (host : List Char) : Prop
  | name (some : host ≠ []) (chars : ∀ c ∈ host, isNameChar c = true)
  | address (colon : ':' ∈ host) (chars : ∀ c ∈ host, isAddressChar c = true)

/-- A target in which nothing is left out: the first question mark, if there is one, has something after it. -/
structure RegularTarget (target : List Char) : Prop where
  slash : target.head? = some '/'
  plain : ∀ c ∈ target, c ≠ '#' ∧ c ≠ '\t' ∧ c ≠ '\n' ∧ c ≠ '\r'
  query : ∀ {path query : List Char}, target = path ++ '?' :: query → '?' ∉ path → query ≠ []

/-- The characters of regular hosts: none of them ends a part of a URL, or has another lower-case form. -/
def isHostChar (c : Char) : Bool := isNameChar c || c == ':'

theorem isLower_iff {c : Char} : c.isLower = true ↔ 97 ≤ c.toNat ∧ c.toNat ≤ 122 := by
  change (decide (c.val ≥ 'a'.val) && decide (c.val ≤ 'z'.val)) = true ↔ _
  rw [Bool.and_eq_true, decide_eq_true_eq, decide_eq_true_eq, ge_iff_le, UInt32.le_iff_toNat_le, UInt32.le_iff_toNat_le]
  exact Iff.rfl

theorem isHostChar_of_isAddressChar {c : Char} (h : isAddressChar c = true) : isHostChar c = true := by
  simp only [isAddressChar, isHostChar, isNameChar, isLower_iff, Bool.or_eq_true, Bool.and_eq_true, decide_eq_true_eq,
    beq_iff_eq] at h ⊢
  rcases h with ((h | ⟨hlow, hhigh⟩) | h) | h
  · simp [h]
  · have ha : 97 ≤ c.toNat := UInt32.le_iff_toNat_le.1 hlow
    have hf : c.toNat ≤ 102 := UInt32.le_iff_toNat_le.1 hhigh
    exact .inl (.inl (.inl (.inl (.inl (.inl ⟨ha, by omega⟩)))))
  · simp [h]
  · simp [h]

theorem RegularHost.chars {host : List Char} (h : RegularHost host) : ∀ c ∈ host, isHostChar c = true := by
  cases h with
  | name _ chars => exact fun c hc => Bool.or_eq_true_iff.2 (.inl (chars c hc))
  | address _ chars => exact fun c hc => isHostChar_of_isAddressChar (chars c hc)

theorem RegularHost.ne_nil {host : List Char} (h : RegularHost host) : host ≠ [] := by
  cases h with
  | name some => exact some
  | address colon => exact List.ne_nil_of_mem colon

/-- A name has no colon, and so no brackets. -/
theorem RegularHost.isAddressChar {host : List Char} (h : RegularHost host) (colon : ':' ∈ host) :
    ∀ c ∈ host, Url.isAddressChar c = true := by
  cases h with
  | name _ chars => exact absurd (chars ':' colon) (by decide)
  | address _ chars => exact chars

theorem isHostChar_bounds {c : Char} (h : isHostChar c = true) :
    32 < c.toNat ∧ c.toNat < 128 ∧ ¬(65 ≤ c.toNat ∧ c.toNat ≤ 90) := by
  have hval : c.toNat = c.val.toNat := rfl
  simp only [isHostChar, isNameChar, isLower_iff, Char.isDigit, Bool.or_eq_true, Bool.and_eq_true, decide_eq_true_eq,
    beq_iff_eq, UInt32.le_iff_toNat_le, ge_iff_le] at h
  rcases h with (((((⟨hlow, hhigh⟩ | ⟨hlow, hhigh⟩) | rfl) | rfl) | rfl) | rfl) | rfl
  · omega
  · have hzero : '0'.val.toNat = 48 := rfl
    have hnine : '9'.val.toNat = 57 := rfl
    omega
  all_goals decide

/-- A character does not occur in a regular host, if it is none of the characters of these. -/
theorem not_mem_host {host : List Char} {c : Char} (chars : ∀ c ∈ host, isHostChar c = true)
    (other : isHostChar c = false) : c ∉ host := by
  intro hc
  rw [chars c hc] at other
  cases other

/-! ## Reading an authority -/

section

variable {host digits : List Char}

/-- The characters of an authority of a regular host and a port. -/
def isFieldChar (c : Char) : Bool := isHostChar c || c == '[' || c == ']'

theorem isDigit_of_mem_portDigits {scheme : String} {port : Nat} {c : Char} (h : c ∈ portDigits scheme port) :
    c.isDigit = true := by
  unfold portDigits at h
  split at h
  · cases h
  · exact Nat.isDigit_of_mem_toDigits (by decide) (by decide) h

theorem isHostChar_of_isDigit {c : Char} (h : c.isDigit = true) : isHostChar c = true := by
  simp [isHostChar, isNameChar, h]

theorem isHostChar_portMark (digit : ∀ c ∈ digits, c.isDigit = true) :
    ∀ c ∈ portMark digits, isHostChar c = true := by
  intro c hc
  cases digits with
  | nil => cases hc
  | cons d digits =>
    rcases List.mem_cons.1 hc with rfl | hc
    · rfl
    · exact isHostChar_of_isDigit (digit c hc)

theorem isFieldChar_written (chars : ∀ c ∈ host, isHostChar c = true) (digit : ∀ c ∈ digits, c.isDigit = true) :
    ∀ c ∈ bracketed host ++ portMark digits, isFieldChar c = true := by
  have hhost {c : Char} (h : isHostChar c = true) : isFieldChar c = true := by simp [isFieldChar, h]
  intro c hc
  rcases List.mem_append.1 hc with hc | hc
  · unfold bracketed at hc
    split at hc
    · rcases List.mem_cons.1 hc with rfl | hc
      · rfl
      · rcases List.mem_append.1 hc with hc | hc
        · exact hhost (chars c hc)
        · rw [List.mem_singleton.1 hc]
          rfl
    · exact hhost (chars c hc)
  · exact hhost (isHostChar_portMark digit c hc)

theorem not_mem_written {c : Char} (chars : ∀ c ∈ host, isHostChar c = true) (digit : ∀ c ∈ digits, c.isDigit = true)
    (other : isFieldChar c = false) : c ∉ bracketed host ++ portMark digits := by
  intro hc
  rw [isFieldChar_written chars digit c hc] at other
  cases other

/-- A written authority is taken apart where it was put together. -/
theorem ofAuthority_written (chars : ∀ c ∈ host, isHostChar c = true) (digit : ∀ c ∈ digits, c.isDigit = true) :
    HostPort.ofAuthority (bracketed host ++ portMark digits)
      = if ':' ∈ host then ⟨host, true, [], portMark digits⟩ else ⟨host, false, [], digits⟩ := by
  have hat : hostPort (bracketed host ++ portMark digits) = bracketed host ++ portMark digits :=
    hostPort_of_not_mem (not_mem_written chars digit rfl)
  unfold HostPort.ofAuthority
  rw [hat]
  by_cases hcolon : ':' ∈ host
  · have hopen : partition '[' (bracketed host ++ portMark digits) = ([], some (host ++ ']' :: portMark digits)) := by
      have h := partition_append (List.not_mem_nil (a := '[')) (host ++ ']' :: portMark digits)
      rw [bracketed, if_pos hcolon]
      simpa using h
    rw [hopen, if_pos hcolon]
    dsimp only
    rw [partition_append (not_mem_host chars rfl)]
    rfl
  · have hbare : bracketed host = host := if_neg hcolon
    have hopen : partition '[' (host ++ portMark digits) = (host ++ portMark digits, none) := by
      refine partition_of_not_mem fun h => ?_
      rcases List.mem_append.1 h with h | h
      · exact not_mem_host chars rfl h
      · exact not_mem_host (isHostChar_portMark digit) rfl h
    rw [hbare, hopen, if_neg hcolon]
    dsimp only
    cases digits with
    | nil => rw [portMark, List.append_nil, partition_of_not_mem hcolon]; rfl
    | cons d digits => rw [portMark, partition_append hcolon]; rfl

theorem hostOf_written (chars : ∀ c ∈ host, isHostChar c = true) (digit : ∀ c ∈ digits, c.isDigit = true) :
    hostOf (bracketed host ++ portMark digits) = host := by
  have hhost : (HostPort.ofAuthority (bracketed host ++ portMark digits)).host = host := by
    rw [ofAuthority_written chars digit]
    split <;> rfl
  unfold hostOf
  rw [hhost]
  dsimp only
  rw [partition_of_not_mem (not_mem_host chars rfl)]
  exact Text.lower_of_ascii fun c hc => (isHostChar_bounds (chars c hc)).2

theorem portText_written (chars : ∀ c ∈ host, isHostChar c = true) (digit : ∀ c ∈ digits, c.isDigit = true) :
    portText (bracketed host ++ portMark digits) = digits := by
  unfold portText
  rw [ofAuthority_written chars digit]
  by_cases hcolon : ':' ∈ host
  · rw [if_pos hcolon]
    dsimp only
    rw [if_pos rfl]
    cases digits with
    | nil => rfl
    | cons d digits =>
      rw [portMark, ← List.nil_append (':' :: d :: digits), partition_append List.not_mem_nil]
      rfl
  · rw [if_neg hcolon]
    rfl

end

theorem numberOf_toDigits (n : Nat) : numberOf (Nat.toDigits 10 n) = n := by
  have hstep : (fun n (c : Char) => n * 10 + (c.toNat - 48)) = fun n c => 10 * n + (c.toNat - '0'.toNat) := by
    funext n c
    rw [Nat.mul_comm]
    rfl
  unfold numberOf
  rw [hstep]
  exact Nat.ofDigitChars_ten_toDigits

/-- The port of a written authority is written, or left out. -/
theorem portOf?_written {host : List Char} {scheme : String} {port : Nat} (chars : ∀ c ∈ host, isHostChar c = true)
    (range : port ≤ 65535) : portOf? (bracketed host ++ portMark (portDigits scheme port))
      = .ok (if defaultPort? scheme = some port then none else some port) := by
  unfold portOf?
  rw [portText_written chars fun _ => isDigit_of_mem_portDigits]
  unfold portDigits
  by_cases hdefault : defaultPort? scheme = some port
  · rw [if_pos hdefault, if_pos hdefault]
  · rw [if_neg hdefault, if_neg hdefault]
    have hdigits : (Nat.toDigits 10 port).all Char.isDigit = true :=
      List.all_eq_true.2 fun c hc => Nat.isDigit_of_mem_toDigits (by decide) (by decide) hc
    have hlength : (Nat.toDigits 10 port).length ≤ 5 := by
      rw [Nat.length_toDigits_le_iff (by decide) (by decide)]
      omega
    have hnumber := numberOf_toDigits port
    have hsome := toDigits_ne_nil port
    generalize Nat.toDigits 10 port = digits at hdigits hlength hnumber hsome
    obtain ⟨d, digits, rfl⟩ := List.exists_cons_of_ne_nil hsome
    dsimp only
    rw [hdigits, hnumber, if_neg (by decide), if_neg (by omega), if_neg (by omega)]

/-! ## Addresses in brackets -/

theorem mem_parts {sep c : Char} {cs : List Char} (h : c ∈ cs) : c = sep ∨ ∃ p ∈ parts sep cs, c ∈ p := by
  induction cs with
  | nil => cases h
  | cons d cs ih =>
    unfold parts at ih ⊢
    rw [List.foldr_cons]
    split
    · rename_i hsep
      rcases List.mem_cons.1 h with rfl | h
      · exact .inl (beq_iff_eq.1 hsep)
      · rcases ih h with h | ⟨p, hp, hc⟩
        · exact .inl h
        · exact .inr ⟨p, List.mem_cons_of_mem _ hp, hc⟩
    · split
      · rename_i hrest
        rcases List.mem_cons.1 h with rfl | h
        · exact .inr ⟨_, List.mem_singleton_self _, List.mem_singleton_self _⟩
        · rcases ih h with h | ⟨p, hp, -⟩
          · exact .inl h
          · rw [hrest] at hp
            cases hp
      · rename_i p ps hrest
        rcases List.mem_cons.1 h with rfl | h
        · exact .inr ⟨_, List.mem_cons_self, List.mem_cons_self⟩
        · rcases ih h with h | ⟨q, hq, hc⟩
          · exact .inl h
          · rw [hrest] at hq
            rcases List.mem_cons.1 hq with rfl | hq
            · exact .inr ⟨_, List.mem_cons_self, List.mem_cons_of_mem _ hc⟩
            · exact .inr ⟨q, List.mem_cons_of_mem _ hq, hc⟩

theorem not_isIPv4_of_colon {cs : List Char} (colon : ':' ∈ cs) : isIPv4 cs = false := by
  rw [Bool.eq_false_iff]
  intro h
  unfold isIPv4 at h
  rcases @mem_parts '.' _ _ colon with hdot | ⟨p, hp, hc⟩
  · exact absurd hdot (by decide)
  · have hoctet := List.all_eq_true.1 (Bool.and_eq_true_iff.1 h).2 p hp
    simp only [isOctet, Bool.and_eq_true] at hoctet
    exact absurd (List.all_eq_true.1 hoctet.1.1.1.2 ':' hc) (by decide)

/-- A host in brackets has to be an address. -/
theorem checkBrackets_written {host digits : List Char} (regular : RegularHost host)
    (digit : ∀ c ∈ digits, c.isDigit = true) : checkBrackets (bracketed host ++ portMark digits)
      = if ':' ∈ host ∧ isIPv6 host = false then .error (.notAddress (String.ofList host)) else .ok () := by
  have hchars := regular.chars
  unfold checkBrackets
  by_cases hcolon : ':' ∈ host
  · have hopen : '[' ∈ bracketed host ++ portMark digits := by
      rw [bracketed, if_pos hcolon]
      exact List.mem_append_left _ List.mem_cons_self
    have hclose : ']' ∈ bracketed host ++ portMark digits := by
      rw [bracketed, if_pos hcolon]
      exact List.mem_append_left _ (List.mem_cons_of_mem _ (List.mem_append_right _ (List.mem_singleton_self _)))
    have hafter : (!(portMark digits).isEmpty && (portMark digits).head? != some ':') = false := by
      cases digits <;> rfl
    have hfuture : (host.head? == some 'v') = false := by
      rw [beq_eq_false_iff_ne]
      intro hv
      exact absurd (regular.isAddressChar hcolon 'v' (List.mem_of_mem_head? hv)) (by decide)
    rw [List.contains_iff_mem.2 hopen, List.contains_iff_mem.2 hclose, ofAuthority_written hchars digit, if_pos hcolon]
    dsimp only
    rw [hafter, checkBracketed, hfuture, not_isIPv4_of_colon hcolon]
    cases hsix : isIPv6 host with
    | true => simp
    | false => simp [hcolon]
  · have hbare : bracketed host = host := if_neg hcolon
    have hnone {c : Char} (other : isHostChar c = false) : (host ++ portMark digits).contains c = false := by
      rw [Bool.eq_false_iff]
      intro h
      rcases List.mem_append.1 (List.contains_iff_mem.1 h) with h | h
      · exact not_mem_host hchars other h
      · exact not_mem_host (isHostChar_portMark digit) other h
    rw [hbare, hnone (c := '[') rfl, hnone (c := ']') rfl]
    exact (if_neg fun h => hcolon h.1).symm

/-! ## A written URL -/

theorem takeScheme_written {scheme : List Char} (h : scheme = "http".toList ∨ scheme = "https".toList) (rest : List Char) :
    takeScheme (scheme ++ ':' :: rest) = (scheme, rest) := by
  have hcolon : ':' ∉ scheme := by rcases h with rfl | rfl <;> decide
  unfold takeScheme
  rw [partition_append hcolon]
  rcases h with rfl | rfl <;> rfl

theorem takeAuthority_written {authority target : List Char} (inside : ∀ c ∈ authority, isFieldChar c = true)
    (slash : target.head? = some '/') : takeAuthority ('/' :: '/' :: (authority ++ target)) = (authority, target) := by
  have hall : ∀ c ∈ authority, (c != '/' && c != '?' && c != '#') = true := by
    intro c hc
    have hchar := inside c hc
    simp only [Bool.and_eq_true, bne_iff_ne]
    refine ⟨⟨?_, ?_⟩, ?_⟩ <;> rintro rfl <;> exact absurd hchar (by decide)
  obtain ⟨target, rfl⟩ : ∃ rest, target = '/' :: rest := by
    cases target with
    | nil => cases slash
    | cons c rest => exact ⟨rest, congrArg (· :: rest) (Option.some.inj slash)⟩
  have htake : (authority ++ '/' :: target).takeWhile (fun c => c != '/' && c != '?' && c != '#') = authority := by
    rw [List.takeWhile_append_of_pos hall]
    simp
  have hslashes (r : List Char) : takeAuthority ('/' :: '/' :: r)
      = (r.takeWhile fun c => c != '/' && c != '?' && c != '#',
        r.drop (r.takeWhile fun c => c != '/' && c != '?' && c != '#').length) := rfl
  rw [hslashes, htake, List.drop_left]

/-- A regular target is cut at its first question mark, and put together again. -/
theorem target_written {target : List Char} (regular : RegularTarget target) : ∃ path query,
    partition '?' (partition '#' target).1 = (path, query) ∧ path ≠ []
      ∧ (if (query.getD []).isEmpty then path else path ++ '?' :: query.getD []) = target := by
  have hplain : partition '#' target = (target, none) :=
    partition_of_not_mem fun h => (regular.plain '#' h).1 rfl
  rw [hplain]
  dsimp only
  by_cases hquery : '?' ∈ target
  · obtain ⟨path, query, rfl, hfirst⟩ := List.eq_append_cons_of_mem hquery
    have hsome := regular.query rfl hfirst
    refine ⟨path, some query, partition_append hfirst query, ?_, ?_⟩
    · rintro rfl
      cases regular.slash
    · rw [Option.getD_some, if_neg (fun h => hsome (List.isEmpty_iff.1 h))]
  · refine ⟨target, none, partition_of_not_mem hquery, ?_, rfl⟩
    rintro rfl
    cases regular.slash

/-- A URL that is written from its parts, character by character. -/
def written (scheme host : String) (port : Nat) (target : String) : List Char :=
  scheme.toList ++ ':' :: '/' :: '/' ::
    ((bracketed host.toList ++ portMark (portDigits scheme port)) ++ target.toList)

/-- Nothing of a written URL is left out before it is cut. -/
theorem whole_written {scheme host target : String} {port : Nat} (hscheme : scheme = "http" ∨ scheme = "https")
    (chars : ∀ c ∈ host.toList, isHostChar c = true) (regular : RegularTarget target.toList) :
    ((written scheme host port target).dropWhile isControlOrSpace).filter (!isLineBreakOrTab ·)
      = written scheme host port target := by
  have hdrop : (written scheme host port target).dropWhile isControlOrSpace = written scheme host port target := by
    rcases hscheme with rfl | rfl <;> rfl
  have hletters : ∀ c ∈ scheme.toList, isLineBreakOrTab c = false := by
    have hall : scheme.toList.all (!isLineBreakOrTab ·) = true := by rcases hscheme with rfl | rfl <;> decide
    exact fun c hc => by simpa using List.all_eq_true.1 hall c hc
  have hfield {c : Char} (h : isFieldChar c = true) : isLineBreakOrTab c = false := by
    simp only [isLineBreakOrTab, Bool.or_eq_false_iff, beq_eq_false_iff_ne]
    refine ⟨⟨?_, ?_⟩, ?_⟩ <;> rintro rfl <;> exact absurd h (by decide)
  rw [hdrop]
  refine List.filter_eq_self.2 fun c hc => ?_
  rw [Bool.not_eq_true']
  rcases List.mem_append.1 hc with hc | hc
  · exact hletters c hc
  rcases List.mem_cons.1 hc with rfl | hc
  · rfl
  rcases List.mem_cons.1 hc with rfl | hc
  · rfl
  rcases List.mem_cons.1 hc with rfl | hc
  · rfl
  rcases List.mem_append.1 hc with hc | hc
  · exact hfield (isFieldChar_written chars (fun _ => isDigit_of_mem_portDigits) c hc)
  · obtain ⟨-, htab, hfeed, hreturn⟩ := regular.plain c hc
    simp [isLineBreakOrTab, htab, hfeed, hreturn]

theorem isAscii_written {host digits : List Char} (chars : ∀ c ∈ host, isHostChar c = true)
    (digit : ∀ c ∈ digits, c.isDigit = true) : checkCompatible (bracketed host ++ portMark digits) = .ok () := by
  have hall : (bracketed host ++ portMark digits).all (·.toNat < 128) = true := by
    refine List.all_eq_true.2 fun c hc => decide_eq_true ?_
    have hchar := isFieldChar_written chars digit c hc
    simp only [isFieldChar, Bool.or_eq_true, beq_iff_eq] at hchar
    rcases hchar with (h | rfl) | rfl
    · exact (isHostChar_bounds h).2.1
    · decide
    · decide
  exact if_pos hall

section

variable {scheme host target : String} {port : Nat}

/-- A written URL is cut where it was put together, unless its brackets hold no address. -/
theorem ofText_written (hscheme : scheme = "http" ∨ scheme = "https") (hhost : RegularHost host.toList)
    (htarget : RegularTarget target.toList) : ∃ path query, path ≠ []
      ∧ (if query.isEmpty then path else path ++ '?' :: query) = target.toList
      ∧ Split.ofText (written scheme host port target)
        = if ':' ∈ host.toList ∧ isIPv6 host.toList = false then .error (.notAddress host)
          else .ok ⟨scheme.toList, bracketed host.toList ++ portMark (portDigits scheme port), path, query⟩ := by
  have hchars := hhost.chars
  have hdigit : ∀ c ∈ portDigits scheme port, c.isDigit = true := fun _ => isDigit_of_mem_portDigits
  have hletters : scheme.toList = "http".toList ∨ scheme.toList = "https".toList :=
    hscheme.imp (congrArg String.toList) (congrArg String.toList)
  obtain ⟨path, query, hcut, hpath, hwhole⟩ := target_written htarget
  refine ⟨path, query.getD [], hpath, hwhole, ?_⟩
  unfold Split.ofText
  rw [whole_written hscheme hchars htarget]
  unfold written
  rw [takeScheme_written hletters]
  dsimp only
  rw [takeAuthority_written (isFieldChar_written hchars hdigit) htarget.slash]
  dsimp only
  rw [checkBrackets_written hhost hdigit, hcut, isAscii_written hchars hdigit, String.ofList_toList]
  split <;> rfl

/-- What is read of a written URL. -/
theorem parse_written (hscheme : scheme = "http" ∨ scheme = "https") (hhost : RegularHost host.toList)
    (range : port ≤ 65535) (htarget : RegularTarget target.toList) :
    parse (String.ofList (written scheme host port target))
      = if ':' ∈ host.toList ∧ isIPv6 host.toList = false then .error (.notAddress host)
        else .ok ⟨⟨scheme, host, port⟩, target⟩ := by
  obtain ⟨path, query, hpath, hwhole, hsplit⟩ := @ofText_written scheme host target port hscheme hhost htarget
  have hchars := hhost.chars
  have hdigit : ∀ c ∈ portDigits scheme port, c.isDigit = true := fun _ => isDigit_of_mem_portDigits
  have hnamed : scheme.toList.isEmpty = false := by rcases hscheme with rfl | rfl <;> rfl
  have hhosted : host.toList.isEmpty = false := List.isEmpty_eq_false_iff.2 hhost.ne_nil
  have hport : (if defaultPort? scheme = some port then none else some port).getD ((defaultPort? scheme).getD 0)
      = port := by
    by_cases hdefault : defaultPort? scheme = some port
    · rw [if_pos hdefault, hdefault]
      rfl
    · rw [if_neg hdefault]
      rfl
  unfold parse
  rw [String.toList_ofList, hsplit]
  by_cases hrefused : ':' ∈ host.toList ∧ isIPv6 host.toList = false
  · rw [if_pos hrefused, if_pos hrefused]
    rfl
  · rw [if_neg hrefused, if_neg hrefused]
    have hpathed : path.isEmpty = false := List.isEmpty_eq_false_iff.2 hpath
    have hhost := hostOf_written hchars hdigit
    have hwritten := @portOf?_written host.toList scheme port hchars range
    simp only [bind, Except.bind, hnamed, hhost, hhosted, hwritten, hpathed, hwhole, hport, Bool.false_eq_true, if_false,
      pure, Except.pure, String.ofList_toList]

theorem written_eq : scheme ++ "://" ++ hostField host (some port) scheme ++ target
    = String.ofList (written scheme host port target) := by
  rw [← String.toList_inj, String.toList_ofList]
  simp [written, toList_hostField]

theorem eq_of_portDigits {port' : Nat} (h : portDigits scheme port = portDigits scheme port') : port = port' := by
  unfold portDigits at h
  split at h <;> split at h
  · rename_i hport hport'
    exact Option.some.inj (hport.symm.trans hport')
  · exact absurd h.symm (toDigits_ne_nil port')
  · exact absurd h (toDigits_ne_nil port)
  · rw [← numberOf_toDigits port, h, numberOf_toDigits]

/-- **A URL that is written from its parts reads back as these**, unless the host stands in brackets and is no address,
which is refused; and a Host field tells the host and the port, for one scheme. -/
theorem written_url_reads_back (hscheme : scheme = "http" ∨ scheme = "https") (hhost : RegularHost host.toList)
    (range : port ≤ 65535) (htarget : RegularTarget target.toList) :
    parse (scheme ++ "://" ++ hostField host (some port) scheme ++ target)
        = (if ':' ∈ host.toList ∧ isIPv6 host.toList = false then .error (.notAddress host)
          else .ok ⟨⟨scheme, host, port⟩, target⟩)
      ∧ ∀ {host' : String} {port' : Nat}, RegularHost host'.toList →
          hostField host' (some port') scheme = hostField host (some port) scheme → host' = host ∧ port' = port := by
  refine ⟨?_, fun {host' port'} hhost' hsame => ?_⟩
  · rw [written_eq]
    exact parse_written hscheme hhost range htarget
  · have hfield := congrArg String.toList hsame
    rw [toList_hostField, toList_hostField] at hfield
    have hdigit (port : Nat) : ∀ c ∈ portDigits scheme port, c.isDigit = true := fun _ => isDigit_of_mem_portDigits
    have hhosts := congrArg hostOf hfield
    have hports := congrArg portText hfield
    rw [hostOf_written hhost'.chars (hdigit port'), hostOf_written hhost.chars (hdigit port)] at hhosts
    rw [portText_written hhost'.chars (hdigit port'), portText_written hhost.chars (hdigit port)] at hports
    exact ⟨String.toList_inj.1 hhosts, eq_of_portDigits hports⟩

theorem plain_of_all {cs : List Char} (h : cs.all (fun c => c ≠ '#' ∧ c ≠ '\t' ∧ c ≠ '\n' ∧ c ≠ '\r') = true) :
    ∀ c ∈ cs, c ≠ '#' ∧ c ≠ '\t' ∧ c ≠ '\n' ∧ c ≠ '\r' :=
  fun c hc => of_decide_eq_true (List.all_eq_true.1 h c hc)

/-- A target with all that ends parts of a URL. -/
theorem regularTarget_mixed : RegularTarget "/a:b/[c]@d?x=1?y=/z".toList where
  slash := rfl
  plain := plain_of_all (by decide)
  query {path query} h hfirst := by
    have hcut := congrArg (partition '?') h
    rw [partition_append hfirst] at hcut
    rintro rfl
    have hempty : (partition '?' "/a:b/[c]@d?x=1?y=/z".toList).2 = some [] := congrArg Prod.snd hcut
    exact absurd hempty (by decide)

theorem written_url_reads_back_bracketed : RegularHost "2001:db8::1".toList ∧ RegularTarget "/a:b/[c]@d?x=1?y=/z".toList
    ∧ parse ("https" ++ "://" ++ hostField "2001:db8::1" (some (8443 : Nat)) "https" ++ "/a:b/[c]@d?x=1?y=/z")
      = .ok ⟨⟨"https", "2001:db8::1", 8443⟩, "/a:b/[c]@d?x=1?y=/z"⟩ := by
  have hhost : RegularHost "2001:db8::1".toList := .address (by decide) (List.all_eq_true.1 (by decide))
  refine ⟨hhost, regularTarget_mixed, ?_⟩
  refine (written_url_reads_back (.inr rfl) hhost (by decide) regularTarget_mixed).1.trans (if_neg fun h => ?_)
  exact absurd h.2 (by decide)

theorem regularTarget_root : RegularTarget "/".toList where
  slash := rfl
  plain := plain_of_all (by decide)
  query {path query} h hfirst := by
    have hquery : '?' ∈ "/".toList := by
      rw [h]
      exact List.mem_append_right _ List.mem_cons_self
    exact absurd hquery (by decide)

/-- A host with colons that is no address does not come back: a URL that has it in brackets is refused. -/
theorem colons_without_an_address : RegularHost "1:2".toList ∧ RegularTarget "/".toList
    ∧ parse ("http" ++ "://" ++ hostField "1:2" (some (80 : Nat)) "http" ++ "/") = .error (.notAddress "1:2") := by
  have hhost : RegularHost "1:2".toList := .address (by decide) (List.all_eq_true.1 (by decide))
  refine ⟨hhost, regularTarget_root, ?_⟩
  rw [written_eq, parse_written (.inl rfl) hhost (by decide) regularTarget_root]
  rfl

end

end Url
end Transport
