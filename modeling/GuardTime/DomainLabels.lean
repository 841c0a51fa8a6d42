import GuardTime.DohDetector

namespace GuardTime

def labels (name : Text) : List Text := name.splitOn '.'

/-- The labels of the suffix are the last labels of the name. -/
def LastLabels (suffix : String) (name : Text) : Prop := labels suffix.toList <:+ labels name

theorem hasSuffix_iff {name : Text} {suffix : String} :
    hasSuffix name suffix = true ↔ LastLabels suffix name := by
  rw [hasSuffix, Bool.or_eq_true, decide_eq_true_eq, List.isSuffixOf_iff_suffix, LastLabels, labels,
    labels, splitOn_suffix_iff]

/-- A name that ends in a listed name, but inside a label, has not its labels. -/
theorem not_lastLabels {suffix : String} {front : Text} {c : Char} (hdot : c ≠ '.') :
    ¬LastLabels suffix (front ++ c :: suffix.toList) := by
  rw [LastLabels, labels, labels, splitOn_suffix_iff]
  rintro (hwhole | hend)
  · have hlen := congrArg List.length hwhole
    simp only [List.length_append, List.length_cons] at hlen
    omega
  · have hsame : (c :: suffix.toList) <:+ front ++ c :: suffix.toList := List.suffix_append front _
    have hheads := List.suffix_of_suffix_length_le hend hsame (by simp)
    exact hdot (List.cons.inj (hheads.eq_of_length (by simp))).1.symm

/-- The first entry whose suffix has the last labels of the name. -/
def FirstListed {α : Type} (suffixOf : α → String) (listed : List α) (name : Text) (entry : α) :
    Prop :=
  LastLabels (suffixOf entry) name ∧
    ∃ before after, listed = before ++ entry :: after ∧
      ∀ other ∈ before, ¬LastLabels (suffixOf other) name

theorem find_hasSuffix {α : Type} {suffixOf : α → String} {listed : List α} {name : Text}
    {entry : α} :
    (listed.find? fun entry => hasSuffix name (suffixOf entry)) = some entry ↔
      FirstListed suffixOf listed name entry := by
  simp only [List.find?_eq_some_iff_append, hasSuffix_iff, FirstListed, Bool.not_eq_true',
    Bool.eq_false_iff, ne_eq]

section Lowering

-- `toLowerCase` of the language, whatever it makes of the letters
variable (toLowerCase : Text → Text)

/-- `hostname.toLowerCase().replace(/\.$/, '')`. -/
def normalizedWith (hostname : String) : Text :=
  let lowered := toLowerCase hostname.toList
  if lowered.getLast? = some '.' then lowered.dropLast else lowered

/-- The host name in lower case, without the one dot that may end it. -/
theorem normalizedWith_spec (hostname : String) :
    (∀ host, toLowerCase hostname.toList = host ++ ['.'] → normalizedWith toLowerCase hostname = host) ∧
    (¬['.'] <:+ toLowerCase hostname.toList →
      normalizedWith toLowerCase hostname = toLowerCase hostname.toList) := by
  refine ⟨?_, ?_⟩
  · intro host hhost
    simp [normalizedWith, hhost]
  · intro hdot
    have hlast : (toLowerCase hostname.toList).getLast? ≠ some '.' := by
      intro hlast
      obtain ⟨host, hhost⟩ := List.getLast?_eq_some_iff.mp hlast
      exact hdot ⟨host, hhost.symm⟩
    simp [normalizedWith, hlast]

def matchVpnDomainWith (domain : String) : Option VpnMatch :=
  if domain = "" then none
  else
    (VPN_DNS_PATTERNS.find? fun pattern =>
      hasSuffix (normalizedWith toLowerCase domain) pattern.suffix).map
      fun pattern => ⟨pattern.provider, pattern.weight⟩

def matchDohSniWith (hostname : String) (extraDomains : List String) : Option String :=
  if hostname = "" then none
  else
    (DOH_SNI_PATTERNS ++ extraDomains).find? fun suffix =>
      hasSuffix (normalizedWith toLowerCase hostname) suffix

theorem matchVpnDomain_eq (domain : String) :
    matchVpnDomain domain = matchVpnDomainWith lowerCase domain := rfl

theorem matchDohSni_eq (hostname : String) (extraDomains : List String) :
    matchDohSni hostname extraDomains =
      matchDohSniWith lowerCase hostname extraDomains := rfl

end Lowering

end GuardTime
