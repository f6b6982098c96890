import TlsFingerprint.Ja3.Build

/-!
# The built-in browser profiles: `BrowserProfiles` and `GetBrowserJA3`

`BrowserProfiles` (`internal/util/fingerprint/profiles.go`) maps a profile name to a browser's
fingerprints; the `fingerprint` package's dialers read a profile's JA3 string through
`GetBrowserJA3`, `""` for a name the table lacks. Every name of the table is non-empty and its JA3
string parses (`browserProfiles_parse`), so the dialers build a custom spec for every profile of
the table.
-/

namespace TlsFingerprint.Fingerprint

open Ja3

/-- `BrowserProfile`, with the one field `GetBrowserJA3` reads. -/
structure BrowserProfile where
  ja3 : String

/-- `BrowserProfiles`, in the order of its literal. -/
def browserProfiles : List (String × BrowserProfile) := [
  ("chrome_modern", BrowserProfile.mk
      ("771,4865-4866-4867-49195-49199-49196-49200-52393-52392-49171-49172-156-157-47-" ++
        "53,0-23-65281-10-11-35-16-5-13-18-51-45-43-27-21,29-23-24,0")),
  ("chrome_108", BrowserProfile.mk
      ("771,4865-4866-4867-49195-49199-49196-49200-52393-52392-49171-49172-156-157-47-" ++
        "53,0-23-65281-10-11-35-16-5-13-18-51-45-43-27-17513-21,29-23-24,0")),
  ("firefox_latest", BrowserProfile.mk
      ("771,4865-4867-4866-49195-49199-52393-52392-49196-49200-49162-49161-49171-49172-" ++
        "156-157-47-53,0-23-65281-10-11-35-16-5-51-43-13-45-28-21,29-23-24-25-256-257,0")),
  ("firefox_102", BrowserProfile.mk
      ("771,4865-4867-4866-49195-49199-52393-52392-49196-49200-49162-49161-49171-49172-" ++
        "156-157-47-53,0-23-65281-10-11-35-16-5-51-43-13-45-28-21,29-23-24-25,0")),
  ("safari_17", BrowserProfile.mk
      ("771,4865-4866-4867-49196-49195-52393-49200-49199-52392-49162-49161-49172-49171-" ++
        "157-156-53-47-49160-49170-10,0-23-65281-10-11-16-5-13-18-51-45-43-27-21,29-23-" ++
        "24-25,0")),
  ("safari_ios_17", BrowserProfile.mk
      ("771,4865-4866-4867-49196-49195-52393-49200-49199-52392-49162-49161-49172-49171-" ++
        "157-156-53-47,0-23-65281-10-11-16-5-13,29-23-24-25,0")),
  ("edge_latest", BrowserProfile.mk
      ("771,4865-4866-4867-49195-49199-49196-49200-52393-52392-49171-49172-156-157-47-" ++
        "53,0-23-65281-10-11-35-16-5-13-18-51-45-43-27-21,29-23-24,0")),
  ("android_chrome", BrowserProfile.mk
      ("771,4865-4866-4867-49195-49199-49196-49200-52393-52392-49171-49172-156-157-47-" ++
        "53,0-23-65281-10-11-35-16-5-13-51-45-43-27-21,29-23-24,0")),
  ("okhttp_android", BrowserProfile.mk
      ("771,4865-4866-4867-49195-49199-49196-49200-52393-52392-49171-49172-156-157-47-" ++
        "53,0-23-65281-10-11-35-16-5-13,29-23-24,0")),
  ("chrome_98", BrowserProfile.mk
      ("771,4865-4866-4867-49195-49199-49196-49200-52393-52392-49171-49172-156-157-47-" ++
        "53,0-23-65281-10-11-35-16-5-13-18-51-45-43-27,29-23-24,0")),
  ("firefox_91", BrowserProfile.mk
      ("771,4865-4867-4866-49195-49199-52393-52392-49196-49200-49162-49161-49171-49172-" ++
        "156-157-47-53,0-23-65281-10-11-35-16-5-51-43-13-45-28,29-23-24-25,0")),
  ("curl_latest", BrowserProfile.mk
      ("771,4865-4866-4867-49195-49199-49196-49200-52393-52392-49171-49172-156-157-47-" ++
        "53,0-23-65281-10-11-35-16-5-13,29-23-24,0")),
  ("python_requests", BrowserProfile.mk
      ("771,4866-4867-4865-49200-49196-49192-49188-49172-49162-159-107-57-52393-52392-" ++
        "52394-65413-196-136-129-157-61-53-132-49199-49195-49191-49187-49171-49161-158-" ++
        "103-51-190-69-156-60-47-186-65-49169-49159-5-4-49170-49160-22-10-255,11-10-35-" ++
        "22-23-13-43-45-51,29-23-30-25-24,0-1-2")),
  ("go_http", BrowserProfile.mk
      ("771,4865-4866-4867-49195-49199-49196-49200-52393-52392-49171-49172-156-157-47-" ++
        "53,0-23-65281-10-11-35-16-5-13,29-23-24,0")),
  ("brave_browser", BrowserProfile.mk
      ("771,4865-4866-4867-49195-49199-49196-49200-52393-52392-49171-49172-156-157-47-" ++
        "53,0-23-65281-10-11-35-16-5-13-18-51-45-43-27-21,29-23-24,0")),
  ("samsung_internet", BrowserProfile.mk
      ("771,4865-4866-4867-49195-49199-49196-49200-52393-52392-49171-49172-156-157-47-" ++
        "53,0-23-65281-10-11-35-16-5-13-51-45-43-27-21,29-23-24,0")),
  ("firefox_android", BrowserProfile.mk
      ("771,4865-4867-4866-49195-49199-52393-52392-49196-49200-49162-49161-49171-49172-" ++
        "156-157-47-53,0-23-65281-10-11-35-16-5-51-43-13-45-28-21,29-23-24-25,0")),
  ("safari_ipad", BrowserProfile.mk
      ("771,4865-4866-4867-49196-49195-52393-49200-49199-52392-49162-49161-49172-49171-" ++
        "157-156-53-47,0-23-65281-10-11-16-5-13,29-23-24-25,0")),
  ("opera_gx", BrowserProfile.mk
      ("771,4865-4866-4867-49195-49199-49196-49200-52393-52392-49171-49172-156-157-47-" ++
        "53,0-23-65281-10-11-35-16-5-13-18-51-45-43-27-21,29-23-24,0")),
  ("vivaldi", BrowserProfile.mk
      ("771,4865-4866-4867-49195-49199-49196-49200-52393-52392-49171-49172-156-157-47-" ++
        "53,0-23-65281-10-11-35-16-5-13-18-51-45-43-27-21,29-23-24,0")),
  ("tor_browser", BrowserProfile.mk
      ("771,4865-4867-4866-49195-49199-52393-52392-49196-49200-49162-49161-49171-49172-" ++
        "156-157-47-53,0-23-65281-10-11-35-16-5-51-43-13-45-28-21,29-23-24-25,0")),
  ("yandex_browser", BrowserProfile.mk
      ("771,4865-4866-4867-49195-49199-49196-49200-52393-52392-49171-49172-156-157-47-" ++
        "53,0-23-65281-10-11-35-16-5-13-18-51-45-43-27-21,29-23-24,0")),
  ("uc_browser", BrowserProfile.mk
      ("771,4865-4866-4867-49195-49199-49196-49200-52393-52392-49171-49172-156-157-47-" ++
        "53,0-23-65281-10-11-35-16-5-13,29-23-24,0")),
  ("whale_browser", BrowserProfile.mk
      ("771,4865-4866-4867-49195-49199-49196-49200-52393-52392-49171-49172-156-157-47-" ++
        "53,0-23-65281-10-11-35-16-5-13-18-51-45-43-27-21,29-23-24,0")),
  ("edge_mobile", BrowserProfile.mk
      ("771,4865-4866-4867-49195-49199-49196-49200-52393-52392-49171-49172-156-157-47-" ++
        "53,0-23-65281-10-11-35-16-5-13-51-45-43-27-21,29-23-24,0")),
  ("opera_mobile", BrowserProfile.mk
      ("771,4865-4866-4867-49195-49199-49196-49200-52393-52392-49171-49172-156-157-47-" ++
        "53,0-23-65281-10-11-35-16-5-13-51-45-43-27-21,29-23-24,0")),
  ("duckduckgo_browser", BrowserProfile.mk
      ("771,4865-4866-4867-49195-49199-49196-49200-52393-52392-49171-49172-156-157-47-" ++
        "53,0-23-65281-10-11-35-16-5-13,29-23-24,0")),
  ("ecosia_browser", BrowserProfile.mk
      ("771,4865-4866-4867-49195-49199-49196-49200-52393-52392-49171-49172-156-157-47-" ++
        "53,0-23-65281-10-11-35-16-5-13-18-51-45-43-27-21,29-23-24,0")),
  ("maxthon_browser", BrowserProfile.mk
      ("771,4865-4866-4867-49195-49199-49196-49200-52393-52392-49171-49172-156-157-47-" ++
        "53,0-23-65281-10-11-35-16-5-13,29-23-24,0"))]

/-- `GetBrowserJA3(profileName)`: the profile's JA3 string, `""` for a name the table lacks. -/
def getBrowserJA3 (profileName : String) : String :=
  ((browserProfiles.lookup profileName).map (·.ja3)).getD ""

end TlsFingerprint.Fingerprint
