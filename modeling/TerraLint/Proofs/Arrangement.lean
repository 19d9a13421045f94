import TerraLint.Proofs.Inventory

/-!
# The order in which files are given

A project is made from a list of names and contents. The list may give the files in any
order and may give a name several times; what a rule set reports on the project depends
on the last content of each name and on nothing else (`TerraLint.RuleSet.check_arranged`).
The reason is that a project keeps its files in an order that they have by themselves, the
order of their names, so that the files with their contents determine the list.

The names are compared character by character. The theorem speaks of their bytes, as file
systems and other tools do when they sort names. Both orders are the same, since the
encoding of characters keeps their order (`TerraLint.Text.encode_append_lt`): a character
that takes more bytes has a larger first byte, and characters that take as many bytes are
compared by their digits in base 64, from the highest.
-/

namespace TerraLint

/-! ### The order of bytes -/

namespace Text

/-- The bytes of a text. -/
def bytes (text : String) : List UInt8 := text.toUTF8.data.toList

theorem bytes_eq (text : String) : bytes text = text.toList.flatMap String.utf8EncodeChar := by
  have htext : text.toUTF8 = text.toList.utf8Encode := by
    rw [String.toUTF8_eq_toByteArray, ← String.toByteArray_ofList, String.ofList_toList]
  rw [bytes, htext, List.utf8Encode, List.toList_data_toByteArray]

/-- The bytes behind the first one of a character with a given number: the last `n` digits of
the number in base 64, from the highest. -/
def trail (v : Nat) : Nat → List UInt8
  | 0 => []
  | n + 1 => UInt8.ofNat (v / 64 ^ n % 64 + 0x80) :: trail v n

/-- How many bytes stand behind the first one. -/
def trailLength (v : Nat) : Nat :=
  if v ≤ 0x7f then 0 else if v ≤ 0x7ff then 1 else if v ≤ 0xffff then 2 else 3

/-- What is added to the highest digit for the first byte, given how many bytes stand behind. -/
def lead : Nat → Nat
  | 0 => 0
  | 1 => 0xc0
  | 2 => 0xe0
  | 3 => 0xf0
  | _ => 0xf8

theorem utf8EncodeChar_eq (c : Char) :
    String.utf8EncodeChar c =
        UInt8.ofNat (c.toNat / 64 ^ trailLength c.toNat + lead (trailLength c.toNat)) ::
          trail c.toNat (trailLength c.toNat) ∧
      c.toNat / 64 ^ trailLength c.toNat + lead (trailLength c.toNat) <
        lead (trailLength c.toNat + 1) := by
  have hvalid : c.toNat < 0x110000 := by
    have := c.valid
    simp [UInt32.isValidChar, Nat.isValidChar] at this
    omega
  have hval : c.val.toNat = c.toNat := rfl
  simp only [String.utf8EncodeChar, hval, trailLength]
  split_ifs with h1 h2 h3
  · exact ⟨by simp [trail, lead], by simp [lead]; omega⟩
  · have hdigit : c.toNat / 64 % 32 = c.toNat / 64 := by omega
    exact ⟨by simp [trail, lead, hdigit], by simp [lead]; omega⟩
  · have hdigit : c.toNat / 4096 % 16 = c.toNat / 4096 := by omega
    exact ⟨by simp [trail, lead, hdigit], by simp [lead]; omega⟩
  · have hdigit : c.toNat / 262144 % 8 = c.toNat / 262144 := by omega
    exact ⟨by simp [trail, lead, hdigit], by simp [lead]; omega⟩

theorem trailLength_mono {v w : Nat} (h : v ≤ w) : trailLength v ≤ trailLength w := by
  unfold trailLength
  split_ifs <;> omega

theorem lead_le (n : Nat) : lead n ≤ 0xf8 := by
  unfold lead
  split <;> omega

theorem lead_mono : Monotone lead := by
  refine monotone_nat_of_le_succ fun n => ?_
  match n with
  | 0 | 1 | 2 | 3 => decide
  | n + 4 => exact le_rfl

theorem ofNat_lt {x y : Nat} (h : x < y) (hy : y < 256) : UInt8.ofNat x < UInt8.ofNat y := by
  rw [UInt8.lt_iff_toNat_lt, UInt8.toNat_ofNat', UInt8.toNat_ofNat']
  omega

/-- Digits decide from the highest: of two numbers the larger one has more above its last `n`
digits, or as much there and larger digits. -/
theorem trail_lt {v w : Nat} (h : v < w) (n : Nat) (xs ys : List UInt8) :
    v / 64 ^ n < w / 64 ^ n ∨
      v / 64 ^ n = w / 64 ^ n ∧ trail v n ++ xs < trail w n ++ ys := by
  induction n with
  | zero => exact .inl (by simpa using h)
  | succ n ih =>
    rw [pow_succ, ← Nat.div_div_eq_div_mul, ← Nat.div_div_eq_div_mul]
    simp only [trail, List.cons_append, List.cons_lt_cons_iff]
    rcases ih with hlt | ⟨heq, htail⟩
    · have hcases : v / 64 ^ n / 64 < w / 64 ^ n / 64 ∨
          v / 64 ^ n / 64 = w / 64 ^ n / 64 ∧ v / 64 ^ n % 64 < w / 64 ^ n % 64 := by omega
      refine hcases.imp_right fun ⟨hhigh, hdigit⟩ => ⟨hhigh, .inl ?_⟩
      exact ofNat_lt (by omega) (by omega)
    · exact .inr ⟨by rw [heq], .inr ⟨by rw [heq], htail⟩⟩

/-- **The encoding of characters keeps their order**, whatever follows them. -/
theorem encode_append_lt {c d : Char} (h : c < d) (xs ys : List UInt8) :
    String.utf8EncodeChar c ++ xs < String.utf8EncodeChar d ++ ys := by
  have hlt : c.toNat < d.toNat := h
  obtain ⟨hc, hbound⟩ := utf8EncodeChar_eq c
  obtain ⟨hd, hbound'⟩ := utf8EncodeChar_eq d
  have hbyte := lead_le (trailLength d.toNat + 1)
  rw [hc, hd, List.cons_append, List.cons_append, List.cons_lt_cons_iff]
  rcases (trailLength_mono hlt.le).lt_or_eq with hlength | hlength
  · -- More bytes: the first bytes lie in different ranges.
    refine .inl (ofNat_lt ?_ (by omega))
    calc c.toNat / 64 ^ trailLength c.toNat + lead (trailLength c.toNat)
        < lead (trailLength c.toNat + 1) := hbound
      _ ≤ lead (trailLength d.toNat) := lead_mono hlength
      _ ≤ d.toNat / 64 ^ trailLength d.toNat + lead (trailLength d.toNat) := Nat.le_add_left _ _
  · rw [hlength]
    rcases trail_lt hlt (trailLength d.toNat) xs ys with hhigh | ⟨hhigh, htrail⟩
    · exact .inl (ofNat_lt (by omega) (by omega))
    · exact .inr ⟨by rw [hhigh], htrail⟩

/-- **Bytes are in the order of characters.** -/
theorem bytes_lt {a b : String} (h : a.toList < b.toList) : bytes a < bytes b := by
  rw [bytes_eq, bytes_eq]
  generalize a.toList = xs at h
  generalize b.toList = ys at h
  induction h with
  | @nil c ys =>
    rw [List.flatMap_nil, List.flatMap_cons, (utf8EncodeChar_eq c).1]
    exact List.nil_lt_cons _ _
  | cons _ ih => exact List.append_left_lt ih
  | rel hlt => exact encode_append_lt hlt _ _

end Text

namespace Project

/-- The last content that a list of names and contents has for a name. -/
def lastContent? (files : List (String × String)) (name : String) : Option String :=
  files.reverse.lookup name

variable {xs ys : List (String × String)}

theorem mem_files_ofFiles (path : List String) {f : SourceFile} :
    f ∈ (ofFiles path xs).files ↔ lastContent? xs f.name = some f.content :=
  mem_arrange

/-- The last contents of all names determine the files, and these the project. -/
theorem ofFiles_congr (path : List String)
    (h : ∀ name, lastContent? xs name = lastContent? ys name) :
    ofFiles path xs = ofFiles path ys := by
  have hirrefl : Std.Irrefl fun f g : SourceFile => f.name < g.name :=
    ⟨fun f => String.lt_irrefl f.name⟩
  have hantisymm : Std.Antisymm fun f g : SourceFile => f.name < g.name :=
    ⟨fun f g hfg hgf => absurd hgf (String.lt_asymm hfg)⟩
  have hfiles : arrange xs = arrange ys := by
    refine (ordered_arrange xs).eq_of_mem_iff (ordered_arrange ys) fun f => ?_
    rw [mem_arrange, mem_arrange, ← lastContent?, h f.name, lastContent?]
  simp only [ofFiles, hfiles]

/-- Where names are different, the last content of a name is its content. -/
theorem lastContent?_eq_some_iff (h : (xs.map Prod.fst).Nodup) {name content : String} :
    lastContent? xs name = some content ↔ (name, content) ∈ xs := by
  rw [← List.mem_reverse]
  refine ⟨mem_of_lookup, lookup_of_mem ?_⟩
  rwa [List.map_reverse, List.nodup_reverse]

/-- Files with different names can be given in any order. -/
theorem lastContent?_eq_of_perm (h : xs.Perm ys) (hnames : (xs.map Prod.fst).Nodup)
    (name : String) : lastContent? xs name = lastContent? ys name := by
  have hnames' : (ys.map Prod.fst).Nodup := (h.map Prod.fst).nodup_iff.mp hnames
  refine Option.ext fun content => ?_
  rw [lastContent?_eq_some_iff hnames, lastContent?_eq_some_iff hnames', h.mem_iff]

/-- The names of the files of a project are those given. -/
theorem mem_names_ofFiles (path : List String) {name : String} :
    name ∈ (ofFiles path xs).files.map SourceFile.name ↔ name ∈ xs.map Prod.fst := by
  simp only [List.mem_map, mem_files_ofFiles]
  constructor
  · rintro ⟨f, hf, rfl⟩
    exact ⟨_, List.mem_reverse.mp (mem_of_lookup hf), rfl⟩
  · rintro ⟨⟨name, content⟩, hmem, rfl⟩
    cases hlast : lastContent? xs name with
    | none =>
      have hnone := List.lookup_eq_none_iff.mp hlast _ (List.mem_reverse.mpr hmem)
      simp at hnone
    | some last => exact ⟨⟨name, last⟩, hlast, rfl⟩

/-- The files of a project stand in the order of the bytes of their names. -/
theorem bytes_increasing (p : Project) :
    (p.files.map SourceFile.name).Pairwise fun a b => Text.bytes a < Text.bytes b :=
  List.pairwise_map.mpr (p.ordered.imp Text.bytes_lt)

end Project

/-- **The order in which files are given does not matter.** Two lists with the same last content
for every name give the rule set of the linter the same to report, whatever the settings; and
files with different names have the same last contents in any order. The files are listed by
the bytes of their names, each name that is given once, with its last content. -/
theorem RuleSet.check_arranged (path : List String) (xs ys : List (String × String)) :
    ((∀ name, Project.lastContent? xs name = Project.lastContent? ys name) →
      ∀ settings set, Builtin.ruleSet settings = .ok set →
        set.check settings (.ofFiles path xs) = set.check settings (.ofFiles path ys)) ∧
    (xs.Perm ys → (xs.map Prod.fst).Nodup →
      ∀ name, Project.lastContent? xs name = Project.lastContent? ys name) ∧
    ((Project.ofFiles path xs).files.map SourceFile.name).Pairwise
      (fun a b => Text.bytes a < Text.bytes b) ∧
    (∀ name, name ∈ (Project.ofFiles path xs).files.map SourceFile.name ↔ name ∈ xs.map Prod.fst) ∧
    ∀ f, f ∈ (Project.ofFiles path xs).files ↔ Project.lastContent? xs f.name = some f.content := by
  refine ⟨fun h settings set _ => ?_, Project.lastContent?_eq_of_perm, Project.bytes_increasing _,
    fun name => Project.mem_names_ofFiles path, fun f => Project.mem_files_ofFiles path⟩
  rw [Project.ofFiles_congr path h]

set_option maxRecDepth 20000 in
/-- A file with a comment, and a file that is given twice: at first it leaves a string open, then
it is empty. The list without the first version, in the other order, gives the same report. -/
theorem RuleSet.check_arranged_twice :
    let xs := [("b.tf", "# x\n"), ("a.tf", "\""), ("a.tf", "")]
    let ys := [("a.tf", ""), ("b.tf", "# x\n")]
    (∀ name, Project.lastContent? xs name = Project.lastContent? ys name) ∧
      ∃ set, Builtin.ruleSet {} = .ok set ∧
        (set.check {} (.ofFiles [] ys)).issues.length = 1 ∧
        set.check {} (.ofFiles [] xs) = set.check {} (.ofFiles [] ys) := by
  intro xs ys
  have hlast : ∀ name, Project.lastContent? xs name = Project.lastContent? ys name := by
    intro name
    by_cases ha : name = "a.tf"
    · rw [ha]
      rfl
    · simp [xs, ys, Project.lastContent?, List.lookup, beq_false_of_ne ha]
  obtain ⟨set, hset⟩ : ∃ set, Builtin.ruleSet {} = .ok set := Builtin.exists_ruleSet (by cbv)
  have hone : (Builtin.ruleSet {}).map (fun set => (set.check {} (.ofFiles [] ys)).issues.length) =
      .ok 1 := by cbv
  rw [hset] at hone
  exact ⟨hlast, set, hset, Except.ok.inj hone,
    (RuleSet.check_arranged [] xs ys).1 hlast {} set hset⟩

end TerraLint
