import TlsFingerprint.Go.Basic
import TlsFingerprint.Go.Unicode
import TlsFingerprint.Ja3.Parse
import TlsFingerprint.Utls.Spec
import TlsFingerprint.Ja3.Build
import TlsFingerprint.Ja3.File
import TlsFingerprint.Fingerprint.Json
import TlsFingerprint.Ja3.Ja4
import TlsFingerprint.Ja3.Ja4Hash
import TlsFingerprint.Ja3.Ja4File
import TlsFingerprint.Fingerprint.Http2
import TlsFingerprint.Cache.Lru
import TlsFingerprint.Cache.LRUCache
import TlsFingerprint.Cache.Interleaving
import TlsFingerprint.Cache.Metrics
import TlsFingerprint.Cache.Freshness
import TlsFingerprint.Cache.Global
import TlsFingerprint.Go.Sha256
import TlsFingerprint.Cache.SpecFile
import TlsFingerprint.Dialer.Upgrade
import TlsFingerprint.Fingerprint.Transport
import TlsFingerprint.Http3.Metadata
import TlsFingerprint.Fingerprint.Grease
