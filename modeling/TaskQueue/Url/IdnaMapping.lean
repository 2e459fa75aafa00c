import TaskQueue.Text.Table

/-!
# The IDNA mapping table

What the mapping step of IDNA (Unicode Technical Standard 46, version 17.0) does with
each code point: keeps it, drops it, replaces it, or refuses it.  Domain names are
processed nontransitionally here, so the deviation characters (`ß`, final sigma and the
two joiners) are kept like valid ones.  Every ASCII character is valid; the URL rules
refuse some of them afterwards.
-/

namespace TaskQueue.Url

/-- What mapping does with a code point. -/
inductive IdnaStatus where
  | valid
  | ignored
  | disallowed
  | mapped (image : List Char)
  deriving DecidableEq, Repr

/-- The status a table record stands for. -/
def IdnaStatus.ofRecord (r : Text.Table.Record) : IdnaStatus :=
  match r.tag with
  | some 'V' => .valid
  | some 'I' => .ignored
  | some 'M' => .mapped ((r.numbers.drop 1).map Char.ofNat)
  | _ => .disallowed

/-- The table as text: each record is a tag (`V` valid, `I` ignored, `X` disallowed, `M`
mapped), the distance from the start of the range before, and for a mapped code point
what it maps to.  A range runs up to the next. -/
def idnaMappingText : String :=
  String.join [
    "V0 M41.61 M1.62 M1.63 M1.64 M1.65 M1.66 M1.67 M1.68 M1.69 M1.6a M1.6b M1.6c M1.6d M1.6e ",
    "M1.6f M1.70 M1.71 M1.72 M1.73 M1.74 M1.75 M1.76 M1.77 M1.78 M1.79 M1.7a V1 X25 M20.20 V1 ",
    "M7.20.308 V1 M1.61 V1 I2 V1 M1.20.304 V1 M2.32 M1.33 M1.20.301 M1.3bc V1 M2.20.327 M1.31 ",
    "M1.6f V1 M1.31.2044.34 M1.31.2044.32 M1.33.2044.34 V1 M1.e0 M1.e1 M1.e2 M1.e3 M1.e4 ",
    "M1.e5 M1.e6 M1.e7 M1.e8 M1.e9 M1.ea M1.eb M1.ec M1.ed M1.ee M1.ef M1.f0 M1.f1 M1.f2 ",
    "M1.f3 M1.f4 M1.f5 M1.f6 V1 M1.f8 M1.f9 M1.fa M1.fb M1.fc M1.fd M1.fe V1 M21.101 V1 ",
    "M1.103 V1 M1.105 V1 M1.107 V1 M1.109 V1 M1.10b V1 M1.10d V1 M1.10f V1 M1.111 V1 M1.113 ",
    "V1 M1.115 V1 M1.117 V1 M1.119 V1 M1.11b V1 M1.11d V1 M1.11f V1 M1.121 V1 M1.123 V1 ",
    "M1.125 V1 M1.127 V1 M1.129 V1 M1.12b V1 M1.12d V1 M1.12f V1 M1.69.307 V1 M1.69.6a M2.135 ",
    "V1 M1.137 V1 M2.13a V1 M1.13c V1 M1.13e V1 M1.6c.b7 M2.142 V1 M1.144 V1 M1.146 V1 M1.148 ",
    "V1 M1.2bc.6e M1.14b V1 M1.14d V1 M1.14f V1 M1.151 V1 M1.153 V1 M1.155 V1 M1.157 V1 ",
    "M1.159 V1 M1.15b V1 M1.15d V1 M1.15f V1 M1.161 V1 M1.163 V1 M1.165 V1 M1.167 V1 M1.169 ",
    "V1 M1.16b V1 M1.16d V1 M1.16f V1 M1.171 V1 M1.173 V1 M1.175 V1 M1.177 V1 M1.ff M1.17a V1 ",
    "M1.17c V1 M1.17e V1 M1.73 V1 M1.253 M1.183 V1 M1.185 V1 M1.254 M1.188 V1 M1.256 M1.257 ",
    "M1.18c V1 M2.1dd M1.259 M1.25b M1.192 V1 M1.260 M1.263 V1 M1.269 M1.268 M1.199 V1 M3.26f ",
    "M1.272 V1 M1.275 M1.1a1 V1 M1.1a3 V1 M1.1a5 V1 M1.280 M1.1a8 V1 M1.283 V1 M2.1ad V1 ",
    "M1.288 M1.1b0 V1 M1.28a M1.28b M1.1b4 V1 M1.1b6 V1 M1.292 M1.1b9 V1 M3.1bd V1 M7.64.17e ",
    "M3.6c.6a M3.6e.6a M3.1ce V1 M1.1d0 V1 M1.1d2 V1 M1.1d4 V1 M1.1d6 V1 M1.1d8 V1 M1.1da V1 ",
    "M1.1dc V1 M2.1df V1 M1.1e1 V1 M1.1e3 V1 M1.1e5 V1 M1.1e7 V1 M1.1e9 V1 M1.1eb V1 M1.1ed ",
    "V1 M1.1ef V1 M2.64.7a M3.1f5 V1 M1.195 M1.1bf M1.1f9 V1 M1.1fb V1 M1.1fd V1 M1.1ff V1 ",
    "M1.201 V1 M1.203 V1 M1.205 V1 M1.207 V1 M1.209 V1 M1.20b V1 M1.20d V1 M1.20f V1 M1.211 ",
    "V1 M1.213 V1 M1.215 V1 M1.217 V1 M1.219 V1 M1.21b V1 M1.21d V1 M1.21f V1 M1.19e V1 ",
    "M1.223 V1 M1.225 V1 M1.227 V1 M1.229 V1 M1.22b V1 M1.22d V1 M1.22f V1 M1.231 V1 M1.233 ",
    "V1 M7.2c65 M1.23c V1 M1.19a M1.2c66 V1 M2.242 V1 M1.180 M1.289 M1.28c M1.247 V1 M1.249 ",
    "V1 M1.24b V1 M1.24d V1 M1.24f V1 M61.68 M1.266 M1.6a M1.72 M1.279 M1.27b M1.281 M1.77 ",
    "M1.79 V1 M1f.20.306 M1.20.307 M1.20.30a M1.20.328 M1.20.303 M1.20.30b V1 M2.263 M1.6c ",
    "M1.73 M1.78 M1.295 V1 M5b.300 M1.301 V1 M1.313 M1.308.301 M1.3b9 V1 I9 V1 M20.371 V1 ",
    "M1.373 V1 M1.2b9 V1 M1.377 V1 X1 M2.20.3b9 V1 M3.3b M1.3f3 X1 M4.20.301 M1.20.308.301 ",
    "M1.3ac M1.b7 M1.3ad M1.3ae M1.3af X1 M1.3cc X1 M1.3cd M1.3ce V1 M1.3b1 M1.3b2 M1.3b3 ",
    "M1.3b4 M1.3b5 M1.3b6 M1.3b7 M1.3b8 M1.3b9 M1.3ba M1.3bb M1.3bc M1.3bd M1.3be M1.3bf ",
    "M1.3c0 M1.3c1 X1 M1.3c3 M1.3c4 M1.3c5 M1.3c6 M1.3c7 M1.3c8 M1.3c9 M1.3ca M1.3cb V1 ",
    "M23.3d7 M1.3b2 M1.3b8 M1.3c5 M1.3cd M1.3cb M1.3c6 M1.3c0 V1 M1.3d9 V1 M1.3db V1 M1.3dd ",
    "V1 M1.3df V1 M1.3e1 V1 M1.3e3 V1 M1.3e5 V1 M1.3e7 V1 M1.3e9 V1 M1.3eb V1 M1.3ed V1 ",
    "M1.3ef V1 M1.3ba M1.3c1 M1.3c3 V1 M1.3b8 M1.3b5 V1 M1.3f8 V1 M1.3c3 M1.3fb V1 M2.37b ",
    "M1.37c M1.37d M1.450 M1.451 M1.452 M1.453 M1.454 M1.455 M1.456 M1.457 M1.458 M1.459 ",
    "M1.45a M1.45b M1.45c M1.45d M1.45e M1.45f M1.430 M1.431 M1.432 M1.433 M1.434 M1.435 ",
    "M1.436 M1.437 M1.438 M1.439 M1.43a M1.43b M1.43c M1.43d M1.43e M1.43f M1.440 M1.441 ",
    "M1.442 M1.443 M1.444 M1.445 M1.446 M1.447 M1.448 M1.449 M1.44a M1.44b M1.44c M1.44d ",
    "M1.44e M1.44f V1 M30.461 V1 M1.463 V1 M1.465 V1 M1.467 V1 M1.469 V1 M1.46b V1 M1.46d V1 ",
    "M1.46f V1 M1.471 V1 M1.473 V1 M1.475 V1 M1.477 V1 M1.479 V1 M1.47b V1 M1.47d V1 M1.47f ",
    "V1 M1.481 V1 M9.48b V1 M1.48d V1 M1.48f V1 M1.491 V1 M1.493 V1 M1.495 V1 M1.497 V1 ",
    "M1.499 V1 M1.49b V1 M1.49d V1 M1.49f V1 M1.4a1 V1 M1.4a3 V1 M1.4a5 V1 M1.4a7 V1 M1.4a9 ",
    "V1 M1.4ab V1 M1.4ad V1 M1.4af V1 M1.4b1 V1 M1.4b3 V1 M1.4b5 V1 M1.4b7 V1 M1.4b9 V1 ",
    "M1.4bb V1 M1.4bd V1 M1.4bf V1 M1.4cf M1.4c2 V1 M1.4c4 V1 M1.4c6 V1 M1.4c8 V1 M1.4ca V1 ",
    "M1.4cc V1 M1.4ce V1 M2.4d1 V1 M1.4d3 V1 M1.4d5 V1 M1.4d7 V1 M1.4d9 V1 M1.4db V1 M1.4dd ",
    "V1 M1.4df V1 M1.4e1 V1 M1.4e3 V1 M1.4e5 V1 M1.4e7 V1 M1.4e9 V1 M1.4eb V1 M1.4ed V1 ",
    "M1.4ef V1 M1.4f1 V1 M1.4f3 V1 M1.4f5 V1 M1.4f7 V1 M1.4f9 V1 M1.4fb V1 M1.4fd V1 M1.4ff ",
    "V1 M1.501 V1 M1.503 V1 M1.505 V1 M1.507 V1 M1.509 V1 M1.50b V1 M1.50d V1 M1.50f V1 ",
    "M1.511 V1 M1.513 V1 M1.515 V1 M1.517 V1 M1.519 V1 M1.51b V1 M1.51d V1 M1.51f V1 M1.521 ",
    "V1 M1.523 V1 M1.525 V1 M1.527 V1 M1.529 V1 M1.52b V1 M1.52d V1 M1.52f V1 X1 M1.561 ",
    "M1.562 M1.563 M1.564 M1.565 M1.566 M1.567 M1.568 M1.569 M1.56a M1.56b M1.56c M1.56d ",
    "M1.56e M1.56f M1.570 M1.571 M1.572 M1.573 M1.574 M1.575 M1.576 M1.577 M1.578 M1.579 ",
    "M1.57a M1.57b M1.57c M1.57d M1.57e M1.57f M1.580 M1.581 M1.582 M1.583 M1.584 M1.585 ",
    "M1.586 X1 V2 M2e.565.582 V1 X3 V2 X3 V1 X37 V8 X1b V4 X6 V11 X16 V1 M58.627.674 ",
    "M1.648.674 M1.6c7.674 M1.64a.674 V1 X64 V1 X30 V2 X3b V2 X65 Ve X3b V2 X31 V2 Xf V1 X1c ",
    "V2 X1 V1 Xb V5 X20 V7 X4b V1 M75.915.93c M1.916.93c M1.917.93c M1.91c.93c M1.921.93c ",
    "M1.922.93c M1.92b.93c M1.92f.93c V1 X24 V1 X8 V2 X2 V2 X16 V1 X7 V1 X1 V3 X4 V2 X9 V2 X2 ",
    "V2 X4 V8 X1 M4.9a1.9bc M1.9a2.9bc X1 M1.9af.9bc V1 X4 V2 X19 V2 X3 V1 X6 V4 X2 V2 X16 V1 ",
    "X7 V1 M1.a32.a3c X1 V1 M1.a38.a3c X1 V1 X2 V2 X1 V1 X5 V4 X2 V2 X3 V3 X1 M7.a16.a3c ",
    "M1.a17.a3c M1.a1c.a3c V1 X1 M1.a2b.a3c X1 V7 X11 Va X3 V1 X9 V1 X3 V1 X16 V1 X7 V1 X2 V1 ",
    "X5 V2 Xa V1 X3 V1 X3 V2 X1 Vf X4 V2 Xc V7 X7 V1 X3 V1 X8 V2 X2 V2 X16 V1 X7 V1 X2 V1 X5 ",
    "V2 X9 V2 X2 V2 X3 V7 X3 M4.b21.b3c M1.b22.b3c X1 V1 X5 V2 X12 Va X2 V1 X6 V3 X3 V1 X4 V3 ",
    "X2 V1 X1 V1 X2 V3 X2 V3 X3 V3 Xc V4 X5 V3 X3 V1 X4 V2 X1 V6 X1 Ve X15 V5 Xd V1 X3 V1 X17 ",
    "V1 X10 V2 X9 V1 X3 V1 X4 V7 X2 V1 X3 V1 X2 V2 X4 V2 Xa V7 X16 V1 X3 V1 X17 V1 Xa V1 X5 ",
    "V2 X9 V1 X3 V1 X4 V7 X2 V5 X3 V1 X4 V2 Xa V1 X3 Vc Xd V1 X3 V1 X33 V1 X3 V1 X6 V4 X10 V2 ",
    "X1a V1 X3 V1 X12 V3 X18 V1 X9 V1 X1 V2 X7 V3 X1 V4 X6 V1 X1 V1 X8 V6 Xa V2 X3 Vc ",
    "M32.e4d.e32 V1 X7 V4 X1d V25 X2 V1 X1 V1 X5 V1 X18 V1 X1 V1 Mc.ecd.eb2 V1 Xa V2 X5 V1 X1 ",
    "V1 X7 V1 Xa M2.eab.e99 M1.eab.ea1 V1 X2 V20 Mc.f0b V1 M36.f42.fb7 V1 X4 V1 M4.f4c.fb7 V1 ",
    "M4.f51.fb7 V1 M4.f56.fb7 V1 M4.f5b.fb7 V1 Mc.f40.fb5 V1 X3 V4 M2.f71.f72 V1 M1.f71.f74 ",
    "M1.fb2.f80 M1.fb2.f71.f80 M1.fb3.f80 M1.fb3.f71.f80 V1 M7.f71.f80 V1 M11.f92.fb7 V1 X4 ",
    "V1 M4.f9c.fb7 V1 M4.fa1.fb7 V1 M4.fa6.fb7 V1 M4.fab.fb7 V1 Mc.f90.fb5 V1 X3 V1 Xf V1 Xd ",
    "V25 Ma0.2d00 M1.2d01 M1.2d02 M1.2d03 M1.2d04 M1.2d05 M1.2d06 M1.2d07 M1.2d08 M1.2d09 ",
    "M1.2d0a M1.2d0b M1.2d0c M1.2d0d M1.2d0e M1.2d0f M1.2d10 M1.2d11 M1.2d12 M1.2d13 M1.2d14 ",
    "M1.2d15 M1.2d16 M1.2d17 M1.2d18 M1.2d19 M1.2d1a M1.2d1b M1.2d1c M1.2d1d M1.2d1e M1.2d1f ",
    "M1.2d20 M1.2d21 M1.2d22 M1.2d23 M1.2d24 M1.2d25 X1 M1.2d27 X1 M5.2d2d X1 V2 M2c.10dc V1 ",
    "I62 V2 Xe8 V1 X4 V2 X7 V1 X1 V1 X4 V2 X29 V1 X4 V2 X21 V1 X4 V2 X7 V1 X1 V1 X4 V2 Xf V1 ",
    "X39 V1 X4 V2 X43 V2 X20 V3 X1a V6 X56 M2.13f0 M1.13f1 M1.13f2 M1.13f3 M1.13f4 M1.13f5 X1 ",
    "V2 X280 V1 X1c V3 X59 V7 X16 V9 X18 V9 X14 Vc Xd V1 X3 V1 X2 Vc I34 V2 X28 V2 Xa V6 Xa ",
    "V6 Ib V5 Xa V6 X59 V7 X2b V5 X46 Va X1f V1 Xc V4 Xc V4 X1 V3 X2a V2 X5 Vb X2c V4 X1a V6 ",
    "Xb V3 X3e V2 X41 V1 X1d V2 Xb V6 Xa V6 Xe V2 X2e V2 Xc V14 X4d V1 Xa6 V8 X3c V3 Xf V3 ",
    "M33.432 M1.434 M1.43e M1.441 M1.442 M2.44a M1.463 M1.a64b M1.1c8a V1 X1 M5.10d0 M1.10d1 ",
    "M1.10d2 M1.10d3 M1.10d4 M1.10d5 M1.10d6 M1.10d7 M1.10d8 M1.10d9 M1.10da M1.10db M1.10dc ",
    "M1.10dd M1.10de M1.10df M1.10e0 M1.10e1 M1.10e2 M1.10e3 M1.10e4 M1.10e5 M1.10e6 M1.10e7 ",
    "M1.10e8 M1.10e9 M1.10ea M1.10eb M1.10ec M1.10ed M1.10ee M1.10ef M1.10f0 M1.10f1 M1.10f2 ",
    "M1.10f3 M1.10f4 M1.10f5 M1.10f6 M1.10f7 M1.10f8 M1.10f9 M1.10fa X1 M2.10fd M1.10fe ",
    "M1.10ff V1 X8 V8 X2b V5 M2c.61 M1.e6 M1.62 V1 M1.64 M1.65 M1.1dd M1.67 M1.68 M1.69 M1.6a ",
    "M1.6b M1.6c M1.6d M1.6e V1 M1.6f M1.223 M1.70 M1.72 M1.74 M1.75 M1.77 M1.61 M1.250 ",
    "M1.251 M1.1d02 M1.62 M1.64 M1.65 M1.259 M1.25b M1.25c M1.67 V1 M1.6b M1.6d M1.14b M1.6f ",
    "M1.254 M1.1d16 M1.1d17 M1.70 M1.74 M1.75 M1.1d1d M1.26f M1.76 M1.1d25 M1.3b2 M1.3b3 ",
    "M1.3b4 M1.3c6 M1.3c7 M1.69 M1.72 M1.75 M1.76 M1.3b2 M1.3b3 M1.3c1 M1.3c6 M1.3c7 V1 ",
    "Md.43d V1 M22.252 M1.63 M1.255 M1.f0 M1.25c M1.66 M1.25f M1.261 M1.265 M1.268 M1.269 ",
    "M1.26a M1.1d7b M1.29d M1.26d M1.1d85 M1.29f M1.271 M1.270 M1.272 M1.273 M1.274 M1.275 ",
    "M1.278 M1.282 M1.283 M1.1ab M1.289 M1.28a M1.1d1c M1.28b M1.28c M1.7a M1.290 M1.291 ",
    "M1.292 M1.3b8 V1 M40.1e01 V1 M1.1e03 V1 M1.1e05 V1 M1.1e07 V1 M1.1e09 V1 M1.1e0b V1 ",
    "M1.1e0d V1 M1.1e0f V1 M1.1e11 V1 M1.1e13 V1 M1.1e15 V1 M1.1e17 V1 M1.1e19 V1 M1.1e1b V1 ",
    "M1.1e1d V1 M1.1e1f V1 M1.1e21 V1 M1.1e23 V1 M1.1e25 V1 M1.1e27 V1 M1.1e29 V1 M1.1e2b V1 ",
    "M1.1e2d V1 M1.1e2f V1 M1.1e31 V1 M1.1e33 V1 M1.1e35 V1 M1.1e37 V1 M1.1e39 V1 M1.1e3b V1 ",
    "M1.1e3d V1 M1.1e3f V1 M1.1e41 V1 M1.1e43 V1 M1.1e45 V1 M1.1e47 V1 M1.1e49 V1 M1.1e4b V1 ",
    "M1.1e4d V1 M1.1e4f V1 M1.1e51 V1 M1.1e53 V1 M1.1e55 V1 M1.1e57 V1 M1.1e59 V1 M1.1e5b V1 ",
    "M1.1e5d V1 M1.1e5f V1 M1.1e61 V1 M1.1e63 V1 M1.1e65 V1 M1.1e67 V1 M1.1e69 V1 M1.1e6b V1 ",
    "M1.1e6d V1 M1.1e6f V1 M1.1e71 V1 M1.1e73 V1 M1.1e75 V1 M1.1e77 V1 M1.1e79 V1 M1.1e7b V1 ",
    "M1.1e7d V1 M1.1e7f V1 M1.1e81 V1 M1.1e83 V1 M1.1e85 V1 M1.1e87 V1 M1.1e89 V1 M1.1e8b V1 ",
    "M1.1e8d V1 M1.1e8f V1 M1.1e91 V1 M1.1e93 V1 M1.1e95 V1 M5.61.2be M1.1e61 V1 M2.df V1 ",
    "M1.1ea1 V1 M1.1ea3 V1 M1.1ea5 V1 M1.1ea7 V1 M1.1ea9 V1 M1.1eab V1 M1.1ead V1 M1.1eaf V1 ",
    "M1.1eb1 V1 M1.1eb3 V1 M1.1eb5 V1 M1.1eb7 V1 M1.1eb9 V1 M1.1ebb V1 M1.1ebd V1 M1.1ebf V1 ",
    "M1.1ec1 V1 M1.1ec3 V1 M1.1ec5 V1 M1.1ec7 V1 M1.1ec9 V1 M1.1ecb V1 M1.1ecd V1 M1.1ecf V1 ",
    "M1.1ed1 V1 M1.1ed3 V1 M1.1ed5 V1 M1.1ed7 V1 M1.1ed9 V1 M1.1edb V1 M1.1edd V1 M1.1edf V1 ",
    "M1.1ee1 V1 M1.1ee3 V1 M1.1ee5 V1 M1.1ee7 V1 M1.1ee9 V1 M1.1eeb V1 M1.1eed V1 M1.1eef V1 ",
    "M1.1ef1 V1 M1.1ef3 V1 M1.1ef5 V1 M1.1ef7 V1 M1.1ef9 V1 M1.1efb V1 M1.1efd V1 M1.1eff V1 ",
    "M9.1f00 M1.1f01 M1.1f02 M1.1f03 M1.1f04 M1.1f05 M1.1f06 M1.1f07 V1 X6 M2.1f10 M1.1f11 ",
    "M1.1f12 M1.1f13 M1.1f14 M1.1f15 X1 V2 M8.1f20 M1.1f21 M1.1f22 M1.1f23 M1.1f24 M1.1f25 ",
    "M1.1f26 M1.1f27 V1 M8.1f30 M1.1f31 M1.1f32 M1.1f33 M1.1f34 M1.1f35 M1.1f36 M1.1f37 V1 X6 ",
    "M2.1f40 M1.1f41 M1.1f42 M1.1f43 M1.1f44 M1.1f45 X1 V2 X8 M1.1f51 X1 M1.1f53 X1 M1.1f55 ",
    "X1 M1.1f57 V1 M8.1f60 M1.1f61 M1.1f62 M1.1f63 M1.1f64 M1.1f65 M1.1f66 M1.1f67 V1 M1.3ac ",
    "V1 M1.3ad V1 M1.3ae V1 M1.3af V1 M1.3cc V1 M1.3cd V1 M1.3ce X1 M2.1f00.3b9 M1.1f01.3b9 ",
    "M1.1f02.3b9 M1.1f03.3b9 M1.1f04.3b9 M1.1f05.3b9 M1.1f06.3b9 M1.1f07.3b9 M1.1f00.3b9 ",
    "M1.1f01.3b9 M1.1f02.3b9 M1.1f03.3b9 M1.1f04.3b9 M1.1f05.3b9 M1.1f06.3b9 M1.1f07.3b9 ",
    "M1.1f20.3b9 M1.1f21.3b9 M1.1f22.3b9 M1.1f23.3b9 M1.1f24.3b9 M1.1f25.3b9 M1.1f26.3b9 ",
    "M1.1f27.3b9 M1.1f20.3b9 M1.1f21.3b9 M1.1f22.3b9 M1.1f23.3b9 M1.1f24.3b9 M1.1f25.3b9 ",
    "M1.1f26.3b9 M1.1f27.3b9 M1.1f60.3b9 M1.1f61.3b9 M1.1f62.3b9 M1.1f63.3b9 M1.1f64.3b9 ",
    "M1.1f65.3b9 M1.1f66.3b9 M1.1f67.3b9 M1.1f60.3b9 M1.1f61.3b9 M1.1f62.3b9 M1.1f63.3b9 ",
    "M1.1f64.3b9 M1.1f65.3b9 M1.1f66.3b9 M1.1f67.3b9 V1 M2.1f70.3b9 M1.3b1.3b9 M1.3ac.3b9 X1 ",
    "V1 M1.1fb6.3b9 M1.1fb0 M1.1fb1 M1.1f70 M1.3ac M1.3b1.3b9 M1.20.313 M1.3b9 M1.20.313 ",
    "M1.20.342 M1.20.308.342 M1.1f74.3b9 M1.3b7.3b9 M1.3ae.3b9 X1 V1 M1.1fc6.3b9 M1.1f72 ",
    "M1.3ad M1.1f74 M1.3ae M1.3b7.3b9 M1.20.313.300 M1.20.313.301 M1.20.313.342 V1 M3.390 X1 ",
    "V2 M2.1fd0 M1.1fd1 M1.1f76 M1.3af X1 M1.20.314.300 M1.20.314.301 M1.20.314.342 V1 M3.3b0 ",
    "V1 M4.1fe0 M1.1fe1 M1.1f7a M1.3cd M1.1fe5 M1.20.308.300 M1.20.308.301 M1.60 X1 ",
    "M2.1f7c.3b9 M1.3c9.3b9 M1.3ce.3b9 X1 V1 M1.1ff6.3b9 M1.1f78 M1.3cc M1.1f7c M1.3ce ",
    "M1.3c9.3b9 M1.20.301 M1.20.314 X1 M1.20 Ib V1 X2 V2 M1.2010 V1 M5.20.333 V1 Xc V3 X1 ",
    "M7.20 V1 M3.2032.2032 M1.2032.2032.2032 V1 M1.2035.2035 M1.2035.2035.2035 V1 M4.21.21 V1 ",
    "M1.20.305 V1 M8.3f.3f M1.3f.21 M1.21.3f V1 Md.2032.2032.2032.2032 V1 M7.20 I1 X5 I5 ",
    "M6.30 M1.69 X1 M2.34 M1.35 M1.36 M1.37 M1.38 M1.39 M1.2b M1.2212 M1.3d M1.28 M1.29 M1.6e ",
    "M1.30 M1.31 M1.32 M1.33 M1.34 M1.35 M1.36 M1.37 M1.38 M1.39 M1.2b M1.2212 M1.3d M1.28 ",
    "M1.29 X1 M1.61 M1.65 M1.6f M1.78 M1.259 M1.68 M1.6b M1.6c M1.6d M1.6e M1.70 M1.73 M1.74 ",
    "X1 V3 M8.72.73 V1 X19 Ve X21 Mf.61.2f.63 M1.61.2f.73 M1.63 M1.b0.63 V1 M1.63.2f.6f ",
    "M1.63.2f.75 M1.25b V1 M1.b0.66 M1.67 M1.68 M4.127 M1.69 M2.6c V2 M1.6e M1.6e.6f V1 M2.70 ",
    "M1.71 M1.72 V3 M2.73.6d M1.74.65.6c M1.74.6d V1 M1.7a V1 M1.3c9 V1 M1.7a V1 M1.6b M1.e5 ",
    "M1.62 M1.63 V1 M1.65 M2.66 M1.214e M1.6d M1.6f M1.5d0 M1.5d1 M1.5d2 M1.5d3 M1.69 V1 ",
    "M1.66.61.78 M1.3c0 M1.3b3 M2.3c0 M1.2211 V1 M4.64 M2.65 M1.69 M1.6a V1 M6.31.2044.37 ",
    "M1.31.2044.39 M1.31.2044.31.30 M1.31.2044.33 M1.32.2044.33 M1.31.2044.35 M1.32.2044.35 ",
    "M1.33.2044.35 M1.34.2044.35 M1.31.2044.36 M1.35.2044.36 M1.31.2044.38 M1.33.2044.38 ",
    "M1.35.2044.38 M1.37.2044.38 M1.31.2044 M1.69 M1.69.69 M1.69.69.69 M1.69.76 M1.76 ",
    "M1.76.69 M1.76.69.69 M1.76.69.69.69 M1.69.78 M1.78 M1.78.69 M1.78.69.69 M1.6c M1.63 ",
    "M1.64 M1.6d M1.69 M1.69.69 M1.69.69.69 M1.69.76 M1.76 M1.76.69 M1.76.69.69 ",
    "M1.76.69.69.69 M1.69.78 M1.78 M1.78.69 M1.78.69.69 M1.6c M1.63 M1.64 M1.6d V1 M3.2184 V1 ",
    "M5.30.2044.33 V1 X2 V4 M9c.222b.222b M1.222b.222b.222b V1 M1.222e.222e M1.222e.222e.222e ",
    "V1 Mf8.3008 M1.3009 V1 Xff V16 Xb M15.31 M1.32 M1.33 M1.34 M1.35 M1.36 M1.37 M1.38 M1.39 ",
    "M1.31.30 M1.31.31 M1.31.32 M1.31.33 M1.31.34 M1.31.35 M1.31.36 M1.31.37 M1.31.38 ",
    "M1.31.39 M1.32.30 M1.28.31.29 M1.28.32.29 M1.28.33.29 M1.28.34.29 M1.28.35.29 ",
    "M1.28.36.29 M1.28.37.29 M1.28.38.29 M1.28.39.29 M1.28.31.30.29 M1.28.31.31.29 ",
    "M1.28.31.32.29 M1.28.31.33.29 M1.28.31.34.29 M1.28.31.35.29 M1.28.31.36.29 ",
    "M1.28.31.37.29 M1.28.31.38.29 M1.28.31.39.29 M1.28.32.30.29 X1 M14.28.61.29 M1.28.62.29 ",
    "M1.28.63.29 M1.28.64.29 M1.28.65.29 M1.28.66.29 M1.28.67.29 M1.28.68.29 M1.28.69.29 ",
    "M1.28.6a.29 M1.28.6b.29 M1.28.6c.29 M1.28.6d.29 M1.28.6e.29 M1.28.6f.29 M1.28.70.29 ",
    "M1.28.71.29 M1.28.72.29 M1.28.73.29 M1.28.74.29 M1.28.75.29 M1.28.76.29 M1.28.77.29 ",
    "M1.28.78.29 M1.28.79.29 M1.28.7a.29 M1.61 M1.62 M1.63 M1.64 M1.65 M1.66 M1.67 M1.68 ",
    "M1.69 M1.6a M1.6b M1.6c M1.6d M1.6e M1.6f M1.70 M1.71 M1.72 M1.73 M1.74 M1.75 M1.76 ",
    "M1.77 M1.78 M1.79 M1.7a M1.61 M1.62 M1.63 M1.64 M1.65 M1.66 M1.67 M1.68 M1.69 M1.6a ",
    "M1.6b M1.6c M1.6d M1.6e M1.6f M1.70 M1.71 M1.72 M1.73 M1.74 M1.75 M1.76 M1.77 M1.78 ",
    "M1.79 M1.7a M1.30 V1 M521.222b.222b.222b.222b V1 M67.3a.3a.3d M1.3d.3d M1.3d.3d.3d V1 ",
    "M65.2add.338 V1 X97 V2 M8a.2c30 M1.2c31 M1.2c32 M1.2c33 M1.2c34 M1.2c35 M1.2c36 M1.2c37 ",
    "M1.2c38 M1.2c39 M1.2c3a M1.2c3b M1.2c3c M1.2c3d M1.2c3e M1.2c3f M1.2c40 M1.2c41 M1.2c42 ",
    "M1.2c43 M1.2c44 M1.2c45 M1.2c46 M1.2c47 M1.2c48 M1.2c49 M1.2c4a M1.2c4b M1.2c4c M1.2c4d ",
    "M1.2c4e M1.2c4f M1.2c50 M1.2c51 M1.2c52 M1.2c53 M1.2c54 M1.2c55 M1.2c56 M1.2c57 M1.2c58 ",
    "M1.2c59 M1.2c5a M1.2c5b M1.2c5c M1.2c5d M1.2c5e M1.2c5f V1 M30.2c61 V1 M1.26b M1.1d7d ",
    "M1.27d V1 M2.2c68 V1 M1.2c6a V1 M1.2c6c V1 M1.251 M1.271 M1.250 M1.252 V1 M1.2c73 V1 ",
    "M2.2c76 V1 M6.6a M1.76 M1.23f M1.240 M1.2c81 V1 M1.2c83 V1 M1.2c85 V1 M1.2c87 V1 M1.2c89 ",
    "V1 M1.2c8b V1 M1.2c8d V1 M1.2c8f V1 M1.2c91 V1 M1.2c93 V1 M1.2c95 V1 M1.2c97 V1 M1.2c99 ",
    "V1 M1.2c9b V1 M1.2c9d V1 M1.2c9f V1 M1.2ca1 V1 M1.2ca3 V1 M1.2ca5 V1 M1.2ca7 V1 M1.2ca9 ",
    "V1 M1.2cab V1 M1.2cad V1 M1.2caf V1 M1.2cb1 V1 M1.2cb3 V1 M1.2cb5 V1 M1.2cb7 V1 M1.2cb9 ",
    "V1 M1.2cbb V1 M1.2cbd V1 M1.2cbf V1 M1.2cc1 V1 M1.2cc3 V1 M1.2cc5 V1 M1.2cc7 V1 M1.2cc9 ",
    "V1 M1.2ccb V1 M1.2ccd V1 M1.2ccf V1 M1.2cd1 V1 M1.2cd3 V1 M1.2cd5 V1 M1.2cd7 V1 M1.2cd9 ",
    "V1 M1.2cdb V1 M1.2cdd V1 M1.2cdf V1 M1.2ce1 V1 M1.2ce3 V1 M8.2cec V1 M1.2cee V1 M4.2cf3 ",
    "V1 X1 V5 X2d V1 X1 V5 X1 V2 X38 M7.2d61 V1 X1 Ve X18 V9 X7 V1 X7 V1 X7 V1 X7 V1 X7 V1 X7 ",
    "V1 X7 V1 X7 V1 X7e V22 X1a V1 M4.6bcd V1 M53.9f9f X1 Mc.4e00 M1.4e28 M1.4e36 M1.4e3f ",
    "M1.4e59 M1.4e85 M1.4e8c M1.4ea0 M1.4eba M1.513f M1.5165 M1.516b M1.5182 M1.5196 M1.51ab ",
    "M1.51e0 M1.51f5 M1.5200 M1.529b M1.52f9 M1.5315 M1.531a M1.5338 M1.5341 M1.535c M1.5369 ",
    "M1.5382 M1.53b6 M1.53c8 M1.53e3 M1.56d7 M1.571f M1.58eb M1.5902 M1.590a M1.5915 M1.5927 ",
    "M1.5973 M1.5b50 M1.5b80 M1.5bf8 M1.5c0f M1.5c22 M1.5c38 M1.5c6e M1.5c71 M1.5ddb M1.5de5 ",
    "M1.5df1 M1.5dfe M1.5e72 M1.5e7a M1.5e7f M1.5ef4 M1.5efe M1.5f0b M1.5f13 M1.5f50 M1.5f61 ",
    "M1.5f73 M1.5fc3 M1.6208 M1.6236 M1.624b M1.652f M1.6534 M1.6587 M1.6597 M1.65a4 M1.65b9 ",
    "M1.65e0 M1.65e5 M1.66f0 M1.6708 M1.6728 M1.6b20 M1.6b62 M1.6b79 M1.6bb3 M1.6bcb M1.6bd4 ",
    "M1.6bdb M1.6c0f M1.6c14 M1.6c34 M1.706b M1.722a M1.7236 M1.723b M1.723f M1.7247 M1.7259 ",
    "M1.725b M1.72ac M1.7384 M1.7389 M1.74dc M1.74e6 M1.7518 M1.751f M1.7528 M1.7530 M1.758b ",
    "M1.7592 M1.7676 M1.767d M1.76ae M1.76bf M1.76ee M1.77db M1.77e2 M1.77f3 M1.793a M1.79b8 ",
    "M1.79be M1.7a74 M1.7acb M1.7af9 M1.7c73 M1.7cf8 M1.7f36 M1.7f51 M1.7f8a M1.7fbd M1.8001 ",
    "M1.800c M1.8012 M1.8033 M1.807f M1.8089 M1.81e3 M1.81ea M1.81f3 M1.81fc M1.820c M1.821b ",
    "M1.821f M1.826e M1.8272 M1.8278 M1.864d M1.866b M1.8840 M1.884c M1.8863 M1.897e M1.898b ",
    "M1.89d2 M1.8a00 M1.8c37 M1.8c46 M1.8c55 M1.8c78 M1.8c9d M1.8d64 M1.8d70 M1.8db3 M1.8eab ",
    "M1.8eca M1.8f9b M1.8fb0 M1.8fb5 M1.9091 M1.9149 M1.91c6 M1.91cc M1.91d1 M1.9577 M1.9580 ",
    "M1.961c M1.96b6 M1.96b9 M1.96e8 M1.9751 M1.975e M1.9762 M1.9769 M1.97cb M1.97ed M1.97f3 ",
    "M1.9801 M1.98a8 M1.98db M1.98df M1.9996 M1.9999 M1.99ac M1.9aa8 M1.9ad8 M1.9adf M1.9b25 ",
    "M1.9b2f M1.9b32 M1.9b3c M1.9b5a M1.9ce5 M1.9e75 M1.9e7f M1.9ea5 M1.9ebb M1.9ec3 M1.9ecd ",
    "M1.9ed1 M1.9ef9 M1.9efd M1.9f0e M1.9f13 M1.9f20 M1.9f3b M1.9f4a M1.9f52 M1.9f8d M1.9f9c ",
    "M1.9fa0 X1 M2a.20 V1 M1.2e V1 M33.3012 V1 M1.5341 M1.5344 M1.5345 V1 X5 V1 X56 V2 ",
    "M2.20.3099 M1.20.309a V1 M2.3088.308a V1 M5f.30b3.30c8 X1 V5 X2b M1.1100 M1.1101 M1.11aa ",
    "M1.1102 M1.11ac M1.11ad M1.1103 M1.1104 M1.1105 M1.11b0 M1.11b1 M1.11b2 M1.11b3 M1.11b4 ",
    "M1.11b5 M1.111a M1.1106 M1.1107 M1.1108 M1.1121 M1.1109 M1.110a M1.110b M1.110c M1.110d ",
    "M1.110e M1.110f M1.1110 M1.1111 M1.1112 M1.1161 M1.1162 M1.1163 M1.1164 M1.1165 M1.1166 ",
    "M1.1167 M1.1168 M1.1169 M1.116a M1.116b M1.116c M1.116d M1.116e M1.116f M1.1170 M1.1171 ",
    "M1.1172 M1.1173 M1.1174 M1.1175 I1 M1.1114 M1.1115 M1.11c7 M1.11c8 M1.11cc M1.11ce ",
    "M1.11d3 M1.11d7 M1.11d9 M1.111c M1.11dd M1.11df M1.111d M1.111e M1.1120 M1.1122 M1.1123 ",
    "M1.1127 M1.1129 M1.112b M1.112c M1.112d M1.112e M1.112f M1.1132 M1.1136 M1.1140 M1.1147 ",
    "M1.114c M1.11f1 M1.11f2 M1.1157 M1.1158 M1.1159 M1.1184 M1.1185 M1.1188 M1.1191 M1.1192 ",
    "M1.1194 M1.119e M1.11a1 X1 V1 M2.4e00 M1.4e8c M1.4e09 M1.56db M1.4e0a M1.4e2d M1.4e0b ",
    "M1.7532 M1.4e59 M1.4e19 M1.4e01 M1.5929 M1.5730 M1.4eba V1 X46 Va M10.28.1100.29 ",
    "M1.28.1102.29 M1.28.1103.29 M1.28.1105.29 M1.28.1106.29 M1.28.1107.29 M1.28.1109.29 ",
    "M1.28.110b.29 M1.28.110c.29 M1.28.110e.29 M1.28.110f.29 M1.28.1110.29 M1.28.1111.29 ",
    "M1.28.1112.29 M1.28.ac00.29 M1.28.b098.29 M1.28.b2e4.29 M1.28.b77c.29 M1.28.b9c8.29 ",
    "M1.28.bc14.29 M1.28.c0ac.29 M1.28.c544.29 M1.28.c790.29 M1.28.cc28.29 M1.28.ce74.29 ",
    "M1.28.d0c0.29 M1.28.d30c.29 M1.28.d558.29 M1.28.c8fc.29 M1.28.c624.c804.29 ",
    "M1.28.c624.d6c4.29 X1 M1.28.4e00.29 M1.28.4e8c.29 M1.28.4e09.29 M1.28.56db.29 ",
    "M1.28.4e94.29 M1.28.516d.29 M1.28.4e03.29 M1.28.516b.29 M1.28.4e5d.29 M1.28.5341.29 ",
    "M1.28.6708.29 M1.28.706b.29 M1.28.6c34.29 M1.28.6728.29 M1.28.91d1.29 M1.28.571f.29 ",
    "M1.28.65e5.29 M1.28.682a.29 M1.28.6709.29 M1.28.793e.29 M1.28.540d.29 M1.28.7279.29 ",
    "M1.28.8ca1.29 M1.28.795d.29 M1.28.52b4.29 M1.28.4ee3.29 M1.28.547c.29 M1.28.5b66.29 ",
    "M1.28.76e3.29 M1.28.4f01.29 M1.28.8cc7.29 M1.28.5354.29 M1.28.796d.29 M1.28.4f11.29 ",
    "M1.28.81ea.29 M1.28.81f3.29 M1.554f M1.5e7c M1.6587 M1.7b8f V1 M8.70.74.65 M1.32.31 ",
    "M1.32.32 M1.32.33 M1.32.34 M1.32.35 M1.32.36 M1.32.37 M1.32.38 M1.32.39 M1.33.30 ",
    "M1.33.31 M1.33.32 M1.33.33 M1.33.34 M1.33.35 M1.1100 M1.1102 M1.1103 M1.1105 M1.1106 ",
    "M1.1107 M1.1109 M1.110b M1.110c M1.110e M1.110f M1.1110 M1.1111 M1.1112 M1.ac00 M1.b098 ",
    "M1.b2e4 M1.b77c M1.b9c8 M1.bc14 M1.c0ac M1.c544 M1.c790 M1.cc28 M1.ce74 M1.d0c0 M1.d30c ",
    "M1.d558 M1.cc38.ace0 M1.c8fc.c758 M1.c6b0 V1 M1.4e00 M1.4e8c M1.4e09 M1.56db M1.4e94 ",
    "M1.516d M1.4e03 M1.516b M1.4e5d M1.5341 M1.6708 M1.706b M1.6c34 M1.6728 M1.91d1 M1.571f ",
    "M1.65e5 M1.682a M1.6709 M1.793e M1.540d M1.7279 M1.8ca1 M1.795d M1.52b4 M1.79d8 M1.7537 ",
    "M1.5973 M1.9069 M1.512a M1.5370 M1.6ce8 M1.9805 M1.4f11 M1.5199 M1.6b63 M1.4e0a M1.4e2d ",
    "M1.4e0b M1.5de6 M1.53f3 M1.533b M1.5b97 M1.5b66 M1.76e3 M1.4f01 M1.8cc7 M1.5354 M1.591c ",
    "M1.33.36 M1.33.37 M1.33.38 M1.33.39 M1.34.30 M1.34.31 M1.34.32 M1.34.33 M1.34.34 ",
    "M1.34.35 M1.34.36 M1.34.37 M1.34.38 M1.34.39 M1.35.30 M1.31.6708 M1.32.6708 M1.33.6708 ",
    "M1.34.6708 M1.35.6708 M1.36.6708 M1.37.6708 M1.38.6708 M1.39.6708 M1.31.30.6708 ",
    "M1.31.31.6708 M1.31.32.6708 M1.68.67 M1.65.72.67 M1.65.76 M1.6c.74.64 M1.30a2 M1.30a4 ",
    "M1.30a6 M1.30a8 M1.30aa M1.30ab M1.30ad M1.30af M1.30b1 M1.30b3 M1.30b5 M1.30b7 M1.30b9 ",
    "M1.30bb M1.30bd M1.30bf M1.30c1 M1.30c4 M1.30c6 M1.30c8 M1.30ca M1.30cb M1.30cc M1.30cd ",
    "M1.30ce M1.30cf M1.30d2 M1.30d5 M1.30d8 M1.30db M1.30de M1.30df M1.30e0 M1.30e1 M1.30e2 ",
    "M1.30e4 M1.30e6 M1.30e8 M1.30e9 M1.30ea M1.30eb M1.30ec M1.30ed M1.30ef M1.30f0 M1.30f1 ",
    "M1.30f2 M1.4ee4.548c M1.30a2.30d1.30fc.30c8 M1.30a2.30eb.30d5.30a1 ",
    "M1.30a2.30f3.30da.30a2 M1.30a2.30fc.30eb M1.30a4.30cb.30f3.30b0 M1.30a4.30f3.30c1 ",
    "M1.30a6.30a9.30f3 M1.30a8.30b9.30af.30fc.30c9 M1.30a8.30fc.30ab.30fc M1.30aa.30f3.30b9 ",
    "M1.30aa.30fc.30e0 M1.30ab.30a4.30ea M1.30ab.30e9.30c3.30c8 M1.30ab.30ed.30ea.30fc ",
    "M1.30ac.30ed.30f3 M1.30ac.30f3.30de M1.30ae.30ac M1.30ae.30cb.30fc ",
    "M1.30ad.30e5.30ea.30fc M1.30ae.30eb.30c0.30fc M1.30ad.30ed M1.30ad.30ed.30b0.30e9.30e0 ",
    "M1.30ad.30ed.30e1.30fc.30c8.30eb M1.30ad.30ed.30ef.30c3.30c8 M1.30b0.30e9.30e0 ",
    "M1.30b0.30e9.30e0.30c8.30f3 M1.30af.30eb.30bc.30a4.30ed M1.30af.30ed.30fc.30cd ",
    "M1.30b1.30fc.30b9 M1.30b3.30eb.30ca M1.30b3.30fc.30dd M1.30b5.30a4.30af.30eb ",
    "M1.30b5.30f3.30c1.30fc.30e0 M1.30b7.30ea.30f3.30b0 M1.30bb.30f3.30c1 M1.30bb.30f3.30c8 ",
    "M1.30c0.30fc.30b9 M1.30c7.30b7 M1.30c9.30eb M1.30c8.30f3 M1.30ca.30ce M1.30ce.30c3.30c8 ",
    "M1.30cf.30a4.30c4 M1.30d1.30fc.30bb.30f3.30c8 M1.30d1.30fc.30c4 M1.30d0.30fc.30ec.30eb ",
    "M1.30d4.30a2.30b9.30c8.30eb M1.30d4.30af.30eb M1.30d4.30b3 M1.30d3.30eb ",
    "M1.30d5.30a1.30e9.30c3.30c9 M1.30d5.30a3.30fc.30c8 M1.30d6.30c3.30b7.30a7.30eb ",
    "M1.30d5.30e9.30f3 M1.30d8.30af.30bf.30fc.30eb M1.30da.30bd M1.30da.30cb.30d2 ",
    "M1.30d8.30eb.30c4 M1.30da.30f3.30b9 M1.30da.30fc.30b8 M1.30d9.30fc.30bf ",
    "M1.30dd.30a4.30f3.30c8 M1.30dc.30eb.30c8 M1.30db.30f3 M1.30dd.30f3.30c9 ",
    "M1.30db.30fc.30eb M1.30db.30fc.30f3 M1.30de.30a4.30af.30ed M1.30de.30a4.30eb ",
    "M1.30de.30c3.30cf M1.30de.30eb.30af M1.30de.30f3.30b7.30e7.30f3 M1.30df.30af.30ed.30f3 ",
    "M1.30df.30ea M1.30df.30ea.30d0.30fc.30eb M1.30e1.30ac M1.30e1.30ac.30c8.30f3 ",
    "M1.30e1.30fc.30c8.30eb M1.30e4.30fc.30c9 M1.30e4.30fc.30eb M1.30e6.30a2.30f3 ",
    "M1.30ea.30c3.30c8.30eb M1.30ea.30e9 M1.30eb.30d4.30fc M1.30eb.30fc.30d6.30eb ",
    "M1.30ec.30e0 M1.30ec.30f3.30c8.30b2.30f3 M1.30ef.30c3.30c8 M1.30.70b9 M1.31.70b9 ",
    "M1.32.70b9 M1.33.70b9 M1.34.70b9 M1.35.70b9 M1.36.70b9 M1.37.70b9 M1.38.70b9 M1.39.70b9 ",
    "M1.31.30.70b9 M1.31.31.70b9 M1.31.32.70b9 M1.31.33.70b9 M1.31.34.70b9 M1.31.35.70b9 ",
    "M1.31.36.70b9 M1.31.37.70b9 M1.31.38.70b9 M1.31.39.70b9 M1.32.30.70b9 M1.32.31.70b9 ",
    "M1.32.32.70b9 M1.32.33.70b9 M1.32.34.70b9 M1.68.70.61 M1.64.61 M1.61.75 M1.62.61.72 ",
    "M1.6f.76 M1.70.63 M1.64.6d M1.64.6d.32 M1.64.6d.33 M1.69.75 M1.5e73.6210 M1.662d.548c ",
    "M1.5927.6b63 M1.660e.6cbb M1.682a.5f0f.4f1a.793e M1.70.61 M1.6e.61 M1.3bc.61 M1.6d.61 ",
    "M1.6b.61 M1.6b.62 M1.6d.62 M1.67.62 M1.63.61.6c M1.6b.63.61.6c M1.70.66 M1.6e.66 ",
    "M1.3bc.66 M1.3bc.67 M1.6d.67 M1.6b.67 M1.68.7a M1.6b.68.7a M1.6d.68.7a M1.67.68.7a ",
    "M1.74.68.7a M1.3bc.6c M1.6d.6c M1.64.6c M1.6b.6c M1.66.6d M1.6e.6d M1.3bc.6d M1.6d.6d ",
    "M1.63.6d M1.6b.6d M1.6d.6d.32 M1.63.6d.32 M1.6d.32 M1.6b.6d.32 M1.6d.6d.33 M1.63.6d.33 ",
    "M1.6d.33 M1.6b.6d.33 M1.6d.2215.73 M1.6d.2215.73.32 M1.70.61 M1.6b.70.61 M1.6d.70.61 ",
    "M1.67.70.61 M1.72.61.64 M1.72.61.64.2215.73 M1.72.61.64.2215.73.32 M1.70.73 M1.6e.73 ",
    "M1.3bc.73 M1.6d.73 M1.70.76 M1.6e.76 M1.3bc.76 M1.6d.76 M1.6b.76 M1.6d.76 M1.70.77 ",
    "M1.6e.77 M1.3bc.77 M1.6d.77 M1.6b.77 M1.6d.77 M1.6b.3c9 M1.6d.3c9 X1 M1.62.71 M1.63.63 ",
    "M1.63.64 M1.63.2215.6b.67 X1 M1.64.62 M1.67.79 M1.68.61 M1.68.70 M1.69.6e M1.6b.6b ",
    "M1.6b.6d M1.6b.74 M1.6c.6d M1.6c.6e M1.6c.6f.67 M1.6c.78 M1.6d.62 M1.6d.69.6c ",
    "M1.6d.6f.6c M1.70.68 X1 M1.70.70.6d M1.70.72 M1.73.72 M1.73.76 M1.77.62 M1.76.2215.6d ",
    "M1.61.2215.6d M1.31.65e5 M1.32.65e5 M1.33.65e5 M1.34.65e5 M1.35.65e5 M1.36.65e5 ",
    "M1.37.65e5 M1.38.65e5 M1.39.65e5 M1.31.30.65e5 M1.31.31.65e5 M1.31.32.65e5 M1.31.33.65e5 ",
    "M1.31.34.65e5 M1.31.35.65e5 M1.31.36.65e5 M1.31.37.65e5 M1.31.38.65e5 M1.31.39.65e5 ",
    "M1.32.30.65e5 M1.32.31.65e5 M1.32.32.65e5 M1.32.33.65e5 M1.32.34.65e5 M1.32.35.65e5 ",
    "M1.32.36.65e5 M1.32.37.65e5 M1.32.38.65e5 M1.32.39.65e5 M1.33.30.65e5 M1.33.31.65e5 ",
    "M1.67.61.6c V1 X708d V3 X37 V9 X15c M14.a641 V1 M1.a643 V1 M1.a645 V1 M1.a647 V1 M1.a649 ",
    "V1 M1.a64b V1 M1.a64d V1 M1.a64f V1 M1.a651 V1 M1.a653 V1 M1.a655 V1 M1.a657 V1 M1.a659 ",
    "V1 M1.a65b V1 M1.a65d V1 M1.a65f V1 M1.a661 V1 M1.a663 V1 M1.a665 V1 M1.a667 V1 M1.a669 ",
    "V1 M1.a66b V1 M1.a66d V1 M13.a681 V1 M1.a683 V1 M1.a685 V1 M1.a687 V1 M1.a689 V1 M1.a68b ",
    "V1 M1.a68d V1 M1.a68f V1 M1.a691 V1 M1.a693 V1 M1.a695 V1 M1.a697 V1 M1.a699 V1 M1.a69b ",
    "V1 M1.44a M1.44c V1 X5a V8 M22.a723 V1 M1.a725 V1 M1.a727 V1 M1.a729 V1 M1.a72b V1 ",
    "M1.a72d V1 M1.a72f V1 M3.a733 V1 M1.a735 V1 M1.a737 V1 M1.a739 V1 M1.a73b V1 M1.a73d V1 ",
    "M1.a73f V1 M1.a741 V1 M1.a743 V1 M1.a745 V1 M1.a747 V1 M1.a749 V1 M1.a74b V1 M1.a74d V1 ",
    "M1.a74f V1 M1.a751 V1 M1.a753 V1 M1.a755 V1 M1.a757 V1 M1.a759 V1 M1.a75b V1 M1.a75d V1 ",
    "M1.a75f V1 M1.a761 V1 M1.a763 V1 M1.a765 V1 M1.a767 V1 M1.a769 V1 M1.a76b V1 M1.a76d V1 ",
    "M1.a76f V1 M1.a76f V1 M8.a77a V1 M1.a77c V1 M1.1d79 M1.a77f V1 M1.a781 V1 M1.a783 V1 ",
    "M1.a785 V1 M1.a787 V1 M4.a78c V1 M1.265 V1 M2.a791 V1 M1.a793 V1 M3.a797 V1 M1.a799 V1 ",
    "M1.a79b V1 M1.a79d V1 M1.a79f V1 M1.a7a1 V1 M1.a7a3 V1 M1.a7a5 V1 M1.a7a7 V1 M1.a7a9 V1 ",
    "M1.266 M1.25c M1.261 M1.26c M1.26a V1 M1.29e M1.287 M1.29d M1.ab53 M1.a7b5 V1 M1.a7b7 V1 ",
    "M1.a7b9 V1 M1.a7bb V1 M1.a7bd V1 M1.a7bf V1 M1.a7c1 V1 M1.a7c3 V1 M1.a794 M1.282 M1.1d8e ",
    "M1.a7c8 V1 M1.a7ca V1 M1.264 M1.a7cd V1 M1.a7cf V1 M1.a7d1 V1 M1.a7d3 V1 M1.a7d5 V1 ",
    "M1.a7d7 V1 M1.a7d9 V1 M1.a7db V1 M1.19b X1 M14.73 M1.63 M1.66 M1.71 M1.a7f6 V1 M2.127 ",
    "M1.153 V1 X33 V3 Xa V6 X38 V8 X46 V8 Xc V6 X74 Vb X1e V3 X4e V1 Xb V4 X21 V1 X37 V9 Xe ",
    "V2 Xa V2 X67 V18 X1c Va X6 V2 X6 V2 X6 V9 X7 V1 X7 V1 M2c.a727 M1.ab37 M1.26b M1.ab52 V1 ",
    "M9.28d V1 X2 M4.13a0 M1.13a1 M1.13a2 M1.13a3 M1.13a4 M1.13a5 M1.13a6 M1.13a7 M1.13a8 ",
    "M1.13a9 M1.13aa M1.13ab M1.13ac M1.13ad M1.13ae M1.13af M1.13b0 M1.13b1 M1.13b2 M1.13b3 ",
    "M1.13b4 M1.13b5 M1.13b6 M1.13b7 M1.13b8 M1.13b9 M1.13ba M1.13bb M1.13bc M1.13bd M1.13be ",
    "M1.13bf M1.13c0 M1.13c1 M1.13c2 M1.13c3 M1.13c4 M1.13c5 M1.13c6 M1.13c7 M1.13c8 M1.13c9 ",
    "M1.13ca M1.13cb M1.13cc M1.13cd M1.13ce M1.13cf M1.13d0 M1.13d1 M1.13d2 M1.13d3 M1.13d4 ",
    "M1.13d5 M1.13d6 M1.13d7 M1.13d8 M1.13d9 M1.13da M1.13db M1.13dc M1.13dd M1.13de M1.13df ",
    "M1.13e0 M1.13e1 M1.13e2 M1.13e3 M1.13e4 M1.13e5 M1.13e6 M1.13e7 M1.13e8 M1.13e9 M1.13ea ",
    "M1.13eb M1.13ec M1.13ed M1.13ee M1.13ef V1 X2e V2 Xa V6 X2ba4 Vc X17 V4 X31 M2104.8c48 ",
    "M1.66f4 M1.8eca M1.8cc8 M1.6ed1 M1.4e32 M1.53e5 M1.9f9c M2.5951 M1.91d1 M1.5587 M1.5948 ",
    "M1.61f6 M1.7669 M1.7f85 M1.863f M1.87ba M1.88f8 M1.908f M1.6a02 M1.6d1b M1.70d9 M1.73de ",
    "M1.843d M1.916a M1.99f1 M1.4e82 M1.5375 M1.6b04 M1.721b M1.862d M1.9e1e M1.5d50 M1.6feb ",
    "M1.85cd M1.8964 M1.62c9 M1.81d8 M1.881f M1.5eca M1.6717 M1.6d6a M1.72fc M1.90ce M1.4f86 ",
    "M1.51b7 M1.52de M1.64c4 M1.6ad3 M1.7210 M1.76e7 M1.8001 M1.8606 M1.865c M1.8def M1.9732 ",
    "M1.9b6f M1.9dfa M1.788c M1.797f M1.7da0 M1.83c9 M1.9304 M1.9e7f M1.8ad6 M1.58df M1.5f04 ",
    "M1.7c60 M1.807e M1.7262 M1.78ca M1.8cc2 M1.96f7 M1.58d8 M1.5c62 M1.6a13 M1.6dda M1.6f0f ",
    "M1.7d2f M1.7e37 M1.964b M1.52d2 M1.808b M1.51dc M1.51cc M1.7a1c M1.7dbe M1.83f1 M1.9675 ",
    "M1.8b80 M1.62cf M1.6a02 M1.8afe M1.4e39 M1.5be7 M1.6012 M1.7387 M1.7570 M1.5317 M1.78fb ",
    "M1.4fbf M1.5fa9 M1.4e0d M1.6ccc M1.6578 M1.7d22 M1.53c3 M1.585e M1.7701 M1.8449 M1.8aaa ",
    "M1.6bba M1.8fb0 M1.6c88 M1.62fe M1.82e5 M1.63a0 M1.7565 M1.4eae M1.5169 M1.51c9 M1.6881 ",
    "M1.7ce7 M1.826f M1.8ad2 M1.91cf M1.52f5 M1.5442 M1.5973 M1.5eec M1.65c5 M1.6ffe M1.792a ",
    "M1.95ad M1.9a6a M1.9e97 M1.9ece M1.529b M1.66c6 M1.6b77 M1.8f62 M1.5e74 M1.6190 M1.6200 ",
    "M1.649a M1.6f23 M1.7149 M1.7489 M1.79ca M1.7df4 M1.806f M1.8f26 M1.84ee M1.9023 M1.934a ",
    "M1.5217 M1.52a3 M1.54bd M1.70c8 M1.88c2 M1.8aaa M1.5ec9 M1.5ff5 M1.637b M1.6bae M1.7c3e ",
    "M1.7375 M1.4ee4 M1.56f9 M1.5be7 M1.5dba M1.601c M1.73b2 M1.7469 M1.7f9a M1.8046 M1.9234 ",
    "M1.96f6 M1.9748 M1.9818 M1.4f8b M1.79ae M1.91b4 M1.96b8 M1.60e1 M1.4e86 M1.50da M1.5bee ",
    "M1.5c3f M1.6599 M1.6a02 M1.71ce M1.7642 M1.84fc M1.907c M1.9f8d M1.6688 M1.962e M1.5289 ",
    "M1.677b M1.67f3 M1.6d41 M1.6e9c M1.7409 M1.7559 M1.786b M1.7d10 M1.985e M1.516d M1.622e ",
    "M1.9678 M1.502b M1.5d19 M1.6dea M1.8f2a M1.5f8b M1.6144 M1.6817 M1.7387 M1.9686 M1.5229 ",
    "M1.540f M1.5c65 M1.6613 M1.674e M1.68a8 M1.6ce5 M1.7406 M1.75e2 M1.7f79 M1.88cf M1.88e1 ",
    "M1.91cc M1.96e2 M1.533f M1.6eba M1.541d M1.71d0 M1.7498 M1.85fa M1.96a3 M1.9c57 M1.9e9f ",
    "M1.6797 M1.6dcb M1.81e8 M1.7acb M1.7b20 M1.7c92 M1.72c0 M1.7099 M1.8b58 M1.4ec0 M1.8336 ",
    "M1.523a M1.5207 M1.5ea6 M1.62d3 M1.7cd6 M1.5b85 M1.6d1e M1.66b4 M1.8f3b M1.884c M1.964d ",
    "M1.898b M1.5ed3 M1.5140 M1.55c0 V1 M2.585a V1 M1.6674 V1 M2.51de M1.732a M1.76ca M1.793c ",
    "M1.795e M1.7965 M1.798f M1.9756 M1.7cbe M1.7fbd V1 M1.8612 V1 M1.8af8 V1 M2.9038 M1.90fd ",
    "V1 M3.98ef M1.98fc M1.9928 M1.9db4 M1.90de M1.96b7 M1.4fae M1.50e7 M1.514d M1.52c9 ",
    "M1.52e4 M1.5351 M1.559d M1.5606 M1.5668 M1.5840 M1.58a8 M1.5c64 M1.5c6e M1.6094 M1.6168 ",
    "M1.618e M1.61f2 M1.654f M1.65e2 M1.6691 M1.6885 M1.6d77 M1.6e1a M1.6f22 M1.716e M1.722b ",
    "M1.7422 M1.7891 M1.793e M1.7949 M1.7948 M1.7950 M1.7956 M1.795d M1.798d M1.798e M1.7a40 ",
    "M1.7a81 M1.7bc0 M1.7df4 M1.7e09 M1.7e41 M1.7f72 M1.8005 M1.81ed M1.8279 M2.8457 M1.8910 ",
    "M1.8996 M1.8b01 M1.8b39 M1.8cd3 M1.8d08 M1.8fb6 M1.9038 M1.96e3 M1.97ff M1.983b M1.6075 ",
    "M1.242ee M1.8218 X1 M2.4e26 M1.51b5 M1.5168 M1.4f80 M1.5145 M1.5180 M1.52c7 M1.52fa ",
    "M1.559d M1.5555 M1.5599 M1.55e2 M1.585a M1.58b3 M1.5944 M1.5954 M1.5a62 M1.5b28 M1.5ed2 ",
    "M1.5ed9 M1.5f69 M1.5fad M1.60d8 M1.614e M1.6108 M1.618e M1.6160 M1.61f2 M1.6234 M1.63c4 ",
    "M1.641c M1.6452 M1.6556 M1.6674 M1.6717 M1.671b M1.6756 M1.6b79 M1.6bba M1.6d41 M1.6edb ",
    "M1.6ecb M1.6f22 M1.701e M1.716e M1.77a7 M1.7235 M1.72af M1.732a M1.7471 M1.7506 M1.753b ",
    "M1.761d M1.761f M1.76ca M1.76db M1.76f4 M1.774a M1.7740 M1.78cc M1.7ab1 M1.7bc0 M1.7c7b ",
    "M1.7d5b M1.7df4 M1.7f3e M1.8005 M1.8352 M1.83ef M1.8779 M1.8941 M1.8986 M1.8996 M1.8abf ",
    "M1.8af8 M1.8acb M1.8b01 M1.8afe M1.8aed M1.8b39 M1.8b8a M1.8d08 M1.8f38 M1.9072 M1.9199 ",
    "M1.9276 M1.967c M1.96e3 M1.9756 M1.97db M1.97ff M1.980b M1.983b M1.9b12 M1.9f9c M1.2284a ",
    "M1.22844 M1.233d5 M1.3b9d M1.4018 M1.4039 M1.25249 M1.25cd0 M1.27ed3 M1.9f43 M1.9f8e X1 ",
    "M26.66.66 M1.66.69 M1.66.6c M1.66.66.69 M1.66.66.6c M1.73.74 X2 Mc.574.576 M1.574.565 ",
    "M1.574.56b M1.57e.576 M1.574.56d X1 M5.5d9.5b4 V1 M1.5f2.5b7 M1.5e2 M1.5d0 M1.5d3 M1.5d4 ",
    "M1.5db M1.5dc M1.5dd M1.5e8 M1.5ea M1.2b M1.5e9.5c1 M1.5e9.5c2 M1.5e9.5bc.5c1 ",
    "M1.5e9.5bc.5c2 M1.5d0.5b7 M1.5d0.5b8 M1.5d0.5bc M1.5d1.5bc M1.5d2.5bc M1.5d3.5bc ",
    "M1.5d4.5bc M1.5d5.5bc M1.5d6.5bc X1 M1.5d8.5bc M1.5d9.5bc M1.5da.5bc M1.5db.5bc ",
    "M1.5dc.5bc X1 M1.5de.5bc X1 M1.5e0.5bc M1.5e1.5bc X1 M1.5e3.5bc M1.5e4.5bc X1 M1.5e6.5bc ",
    "M1.5e7.5bc M1.5e8.5bc M1.5e9.5bc M1.5ea.5bc M1.5d5.5b9 M1.5d1.5bf M1.5db.5bf M1.5e4.5bf ",
    "M1.5d0.5dc M1.671 M2.67b M4.67e M4.680 M4.67a M4.67f M4.679 M4.6a4 M4.6a6 M4.684 M4.683 ",
    "M4.686 M4.687 M4.68d M2.68c M2.68e M2.688 M2.698 M2.691 M2.6a9 M4.6af M4.6b3 M4.6b1 ",
    "M4.6ba M2.6bb M4.6c0 M2.6c1 M4.6be M4.6d2 M2.6d3 V2 M21.6ad M4.6c7 M2.6c6 M2.6c8 ",
    "M2.6c7.674 M1.6cb M2.6c5 M2.6c9 M2.6d0 M4.649 M2.626.627 M2.626.6d5 M2.626.648 ",
    "M2.626.6c7 M2.626.6c6 M2.626.6c8 M2.626.6d0 M3.626.649 M3.6cc M4.626.62c M1.626.62d ",
    "M1.626.645 M1.626.649 M1.626.64a M1.628.62c M1.628.62d M1.628.62e M1.628.645 M1.628.649 ",
    "M1.628.64a M1.62a.62c M1.62a.62d M1.62a.62e M1.62a.645 M1.62a.649 M1.62a.64a M1.62b.62c ",
    "M1.62b.645 M1.62b.649 M1.62b.64a M1.62c.62d M1.62c.645 M1.62d.62c M1.62d.645 M1.62e.62c ",
    "M1.62e.62d M1.62e.645 M1.633.62c M1.633.62d M1.633.62e M1.633.645 M1.635.62d M1.635.645 ",
    "M1.636.62c M1.636.62d M1.636.62e M1.636.645 M1.637.62d M1.637.645 M1.638.645 M1.639.62c ",
    "M1.639.645 M1.63a.62c M1.63a.645 M1.641.62c M1.641.62d M1.641.62e M1.641.645 M1.641.649 ",
    "M1.641.64a M1.642.62d M1.642.645 M1.642.649 M1.642.64a M1.643.627 M1.643.62c M1.643.62d ",
    "M1.643.62e M1.643.644 M1.643.645 M1.643.649 M1.643.64a M1.644.62c M1.644.62d M1.644.62e ",
    "M1.644.645 M1.644.649 M1.644.64a M1.645.62c M1.645.62d M1.645.62e M1.645.645 M1.645.649 ",
    "M1.645.64a M1.646.62c M1.646.62d M1.646.62e M1.646.645 M1.646.649 M1.646.64a M1.647.62c ",
    "M1.647.645 M1.647.649 M1.647.64a M1.64a.62c M1.64a.62d M1.64a.62e M1.64a.645 M1.64a.649 ",
    "M1.64a.64a M1.630.670 M1.631.670 M1.649.670 M1.20.64c.651 M1.20.64d.651 M1.20.64e.651 ",
    "M1.20.64f.651 M1.20.650.651 M1.20.651.670 M1.626.631 M1.626.632 M1.626.645 M1.626.646 ",
    "M1.626.649 M1.626.64a M1.628.631 M1.628.632 M1.628.645 M1.628.646 M1.628.649 M1.628.64a ",
    "M1.62a.631 M1.62a.632 M1.62a.645 M1.62a.646 M1.62a.649 M1.62a.64a M1.62b.631 M1.62b.632 ",
    "M1.62b.645 M1.62b.646 M1.62b.649 M1.62b.64a M1.641.649 M1.641.64a M1.642.649 M1.642.64a ",
    "M1.643.627 M1.643.644 M1.643.645 M1.643.649 M1.643.64a M1.644.645 M1.644.649 M1.644.64a ",
    "M1.645.627 M1.645.645 M1.646.631 M1.646.632 M1.646.645 M1.646.646 M1.646.649 M1.646.64a ",
    "M1.649.670 M1.64a.631 M1.64a.632 M1.64a.645 M1.64a.646 M1.64a.649 M1.64a.64a M1.626.62c ",
    "M1.626.62d M1.626.62e M1.626.645 M1.626.647 M1.628.62c M1.628.62d M1.628.62e M1.628.645 ",
    "M1.628.647 M1.62a.62c M1.62a.62d M1.62a.62e M1.62a.645 M1.62a.647 M1.62b.645 M1.62c.62d ",
    "M1.62c.645 M1.62d.62c M1.62d.645 M1.62e.62c M1.62e.645 M1.633.62c M1.633.62d M1.633.62e ",
    "M1.633.645 M1.635.62d M1.635.62e M1.635.645 M1.636.62c M1.636.62d M1.636.62e M1.636.645 ",
    "M1.637.62d M1.638.645 M1.639.62c M1.639.645 M1.63a.62c M1.63a.645 M1.641.62c M1.641.62d ",
    "M1.641.62e M1.641.645 M1.642.62d M1.642.645 M1.643.62c M1.643.62d M1.643.62e M1.643.644 ",
    "M1.643.645 M1.644.62c M1.644.62d M1.644.62e M1.644.645 M1.644.647 M1.645.62c M1.645.62d ",
    "M1.645.62e M1.645.645 M1.646.62c M1.646.62d M1.646.62e M1.646.645 M1.646.647 M1.647.62c ",
    "M1.647.645 M1.647.670 M1.64a.62c M1.64a.62d M1.64a.62e M1.64a.645 M1.64a.647 M1.626.645 ",
    "M1.626.647 M1.628.645 M1.628.647 M1.62a.645 M1.62a.647 M1.62b.645 M1.62b.647 M1.633.645 ",
    "M1.633.647 M1.634.645 M1.634.647 M1.643.644 M1.643.645 M1.644.645 M1.646.645 M1.646.647 ",
    "M1.64a.645 M1.64a.647 M1.640.64e.651 M1.640.64f.651 M1.640.650.651 M1.637.649 M1.637.64a ",
    "M1.639.649 M1.639.64a M1.63a.649 M1.63a.64a M1.633.649 M1.633.64a M1.634.649 M1.634.64a ",
    "M1.62d.649 M1.62d.64a M1.62c.649 M1.62c.64a M1.62e.649 M1.62e.64a M1.635.649 M1.635.64a ",
    "M1.636.649 M1.636.64a M1.634.62c M1.634.62d M1.634.62e M1.634.645 M1.634.631 M1.633.631 ",
    "M1.635.631 M1.636.631 M1.637.649 M1.637.64a M1.639.649 M1.639.64a M1.63a.649 M1.63a.64a ",
    "M1.633.649 M1.633.64a M1.634.649 M1.634.64a M1.62d.649 M1.62d.64a M1.62c.649 M1.62c.64a ",
    "M1.62e.649 M1.62e.64a M1.635.649 M1.635.64a M1.636.649 M1.636.64a M1.634.62c M1.634.62d ",
    "M1.634.62e M1.634.645 M1.634.631 M1.633.631 M1.635.631 M1.636.631 M1.634.62c M1.634.62d ",
    "M1.634.62e M1.634.645 M1.633.647 M1.634.647 M1.637.645 M1.633.62c M1.633.62d M1.633.62e ",
    "M1.634.62c M1.634.62d M1.634.62e M1.637.645 M1.638.645 M1.627.64b V2 M12.62a.62c.645 ",
    "M1.62a.62d.62c M2.62a.62d.645 M1.62a.62e.645 M1.62a.645.62c M1.62a.645.62d ",
    "M1.62a.645.62e M1.62c.645.62d M2.62d.645.64a M1.62d.645.649 M1.633.62d.62c ",
    "M1.633.62c.62d M1.633.62c.649 M1.633.645.62d M2.633.645.62c M1.633.645.645 ",
    "M2.635.62d.62d M2.635.645.645 M1.634.62d.645 M2.634.62c.64a M1.634.645.62e ",
    "M2.634.645.645 M2.636.62d.649 M1.636.62e.645 M2.637.645.62d M2.637.645.645 ",
    "M1.637.645.64a M1.639.62c.645 M1.639.645.645 M2.639.645.649 M1.63a.645.645 ",
    "M1.63a.645.64a M1.63a.645.649 M1.641.62e.645 M2.642.645.62d M1.642.645.645 ",
    "M1.644.62d.645 M1.644.62d.64a M1.644.62d.649 M1.644.62c.62c M2.644.62e.645 ",
    "M2.644.645.62d M2.645.62d.62c M1.645.62d.645 M1.645.62d.64a M1.645.62c.62d ",
    "M1.645.62c.645 M1.645.62e.62c M1.645.62e.645 V1 M2.645.62c.62e M1.647.645.62c ",
    "M1.647.645.645 M1.646.62d.645 M1.646.62d.649 M1.646.62c.645 M2.646.62c.649 ",
    "M1.646.645.64a M1.646.645.649 M1.64a.645.645 M2.628.62e.64a M1.62a.62c.64a ",
    "M1.62a.62c.649 M1.62a.62e.64a M1.62a.62e.649 M1.62a.645.64a M1.62a.645.649 ",
    "M1.62c.645.64a M1.62c.62d.649 M1.62c.645.649 M1.633.62e.649 M1.635.62d.64a ",
    "M1.634.62d.64a M1.636.62d.64a M1.644.62c.64a M1.644.645.64a M1.64a.62d.64a ",
    "M1.64a.62c.64a M1.64a.645.64a M1.645.645.64a M1.642.645.64a M1.646.62d.64a ",
    "M1.642.645.62d M1.644.62d.645 M1.639.645.64a M1.643.645.64a M1.646.62c.62d ",
    "M1.645.62e.64a M1.644.62c.645 M1.643.645.645 M1.644.62c.645 M1.646.62c.62d ",
    "M1.62c.62d.64a M1.62d.62c.64a M1.645.62c.64a M1.641.645.64a M1.628.62d.64a ",
    "M1.643.645.645 M1.639.62c.645 M1.635.645.645 M1.633.62e.64a M1.646.62c.64a V1 X8 ",
    "M20.635.644.6d2 M1.642.644.6d2 M1.627.644.644.647 M1.627.643.628.631 M1.645.62d.645.62f ",
    "M1.635.644.639.645 M1.631.633.648.644 M1.639.644.64a.647 M1.648.633.644.645 ",
    "M1.635.644.649 M1.635.644.649.20.627.644.644.647.20.639.644.64a.647.20.648.633.644.645 ",
    "M1.62c.644.20.62c.644.627.644.647 M1.631.6cc.627.644 V1 I3 M10.2c M1.3001 X1 M1.3a M1.3b ",
    "M1.21 M1.3f M1.3016 M1.3017 X1 V7 X10 M1.2014 M1.2013 M1.5f M2.28 M1.29 M1.7b M1.7d ",
    "M1.3014 M1.3015 M1.3010 M1.3011 M1.300a M1.300b M1.3008 M1.3009 M1.300c M1.300d M1.300e ",
    "M1.300f V1 M2.5b M1.5d M1.20.305 M4.5f M3.2c M1.3001 X1 M2.3b M1.3a M1.3f M1.21 M1.2014 ",
    "M1.28 M1.29 M1.7b M1.7d M1.3014 M1.3015 M1.23 M1.26 M1.2a M1.2b M1.2d M1.3c M1.3e M1.3d ",
    "X1 M1.5c M1.24 M1.25 M1.40 X1 M4.20.64b M1.640.64b M1.20.64c V1 M1.20.64d X1 M1.20.64e ",
    "M1.640.64e M1.20.64f M1.640.64f M1.20.650 M1.640.650 M1.20.651 M1.640.651 M1.20.652 ",
    "M1.640.652 M1.621 M1.622 M2.623 M2.624 M2.625 M2.626 M4.627 M2.628 M4.629 M2.62a M4.62b ",
    "M4.62c M4.62d M4.62e M4.62f M2.630 M2.631 M2.632 M2.633 M4.634 M4.635 M4.636 M4.637 ",
    "M4.638 M4.639 M4.63a M4.641 M4.642 M4.643 M4.644 M4.645 M4.646 M4.647 M4.648 M2.649 ",
    "M2.64a M4.644.622 M2.644.623 M2.644.625 M2.644.627 X2 I2 X1 M1.21 M1.22 M1.23 M1.24 ",
    "M1.25 M1.26 M1.27 M1.28 M1.29 M1.2a M1.2b M1.2c M1.2d M1.2e M1.2f M1.30 M1.31 M1.32 ",
    "M1.33 M1.34 M1.35 M1.36 M1.37 M1.38 M1.39 M1.3a M1.3b M1.3c M1.3d M1.3e M1.3f M1.40 ",
    "M1.61 M1.62 M1.63 M1.64 M1.65 M1.66 M1.67 M1.68 M1.69 M1.6a M1.6b M1.6c M1.6d M1.6e ",
    "M1.6f M1.70 M1.71 M1.72 M1.73 M1.74 M1.75 M1.76 M1.77 M1.78 M1.79 M1.7a M1.5b M1.5c ",
    "M1.5d M1.5e M1.5f M1.60 M1.61 M1.62 M1.63 M1.64 M1.65 M1.66 M1.67 M1.68 M1.69 M1.6a ",
    "M1.6b M1.6c M1.6d M1.6e M1.6f M1.70 M1.71 M1.72 M1.73 M1.74 M1.75 M1.76 M1.77 M1.78 ",
    "M1.79 M1.7a M1.7b M1.7c M1.7d M1.7e M1.2985 M1.2986 M1.2e M1.300c M1.300d M1.3001 ",
    "M1.30fb M1.30f2 M1.30a1 M1.30a3 M1.30a5 M1.30a7 M1.30a9 M1.30e3 M1.30e5 M1.30e7 M1.30c3 ",
    "M1.30fc M1.30a2 M1.30a4 M1.30a6 M1.30a8 M1.30aa M1.30ab M1.30ad M1.30af M1.30b1 M1.30b3 ",
    "M1.30b5 M1.30b7 M1.30b9 M1.30bb M1.30bd M1.30bf M1.30c1 M1.30c4 M1.30c6 M1.30c8 M1.30ca ",
    "M1.30cb M1.30cc M1.30cd M1.30ce M1.30cf M1.30d2 M1.30d5 M1.30d8 M1.30db M1.30de M1.30df ",
    "M1.30e0 M1.30e1 M1.30e2 M1.30e4 M1.30e6 M1.30e8 M1.30e9 M1.30ea M1.30eb M1.30ec M1.30ed ",
    "M1.30ef M1.30f3 M1.3099 M1.309a I1 M1.1100 M1.1101 M1.11aa M1.1102 M1.11ac M1.11ad ",
    "M1.1103 M1.1104 M1.1105 M1.11b0 M1.11b1 M1.11b2 M1.11b3 M1.11b4 M1.11b5 M1.111a M1.1106 ",
    "M1.1107 M1.1108 M1.1121 M1.1109 M1.110a M1.110b M1.110c M1.110d M1.110e M1.110f M1.1110 ",
    "M1.1111 M1.1112 X1 M3.1161 M1.1162 M1.1163 M1.1164 M1.1165 M1.1166 X1 M2.1167 M1.1168 ",
    "M1.1169 M1.116a M1.116b M1.116c X1 M2.116d M1.116e M1.116f M1.1170 M1.1171 M1.1172 X1 ",
    "M2.1173 M1.1174 M1.1175 X1 M3.a2 M1.a3 M1.ac M1.20.304 M1.a6 M1.a5 M1.20a9 X1 M1.2502 ",
    "M1.2190 M1.2191 M1.2192 M1.2193 M1.25a0 M1.25cb X1 V11 Xc V1 X1a V1 X13 V1 X2 V1 Xf V2 ",
    "Xe V22 X7b V5 X3 V4 X2d V3 X58 V1 Xd V3 X1 V2f X2e V82 X1d V3 X31 Vf X1c V4 X24 V9 X1e ",
    "V5 X2b V5 X1e V1 X25 V4 Xe M2a.10428 M1.10429 M1.1042a M1.1042b M1.1042c M1.1042d ",
    "M1.1042e M1.1042f M1.10430 M1.10431 M1.10432 M1.10433 M1.10434 M1.10435 M1.10436 ",
    "M1.10437 M1.10438 M1.10439 M1.1043a M1.1043b M1.1043c M1.1043d M1.1043e M1.1043f ",
    "M1.10440 M1.10441 M1.10442 M1.10443 M1.10444 M1.10445 M1.10446 M1.10447 M1.10448 ",
    "M1.10449 M1.1044a M1.1044b M1.1044c M1.1044d M1.1044e M1.1044f V1 X76 V2 Xa M6.104d8 ",
    "M1.104d9 M1.104da M1.104db M1.104dc M1.104dd M1.104de M1.104df M1.104e0 M1.104e1 ",
    "M1.104e2 M1.104e3 M1.104e4 M1.104e5 M1.104e6 M1.104e7 M1.104e8 M1.104e9 M1.104ea ",
    "M1.104eb M1.104ec M1.104ed M1.104ee M1.104ef M1.104f0 M1.104f1 M1.104f2 M1.104f3 ",
    "M1.104f4 M1.104f5 M1.104f6 M1.104f7 M1.104f8 M1.104f9 M1.104fa M1.104fb X1 V4 X24 V4 X28 ",
    "V8 X34 Vb M1.10597 M1.10598 M1.10599 M1.1059a M1.1059b M1.1059c M1.1059d M1.1059e ",
    "M1.1059f M1.105a0 M1.105a1 X1 M1.105a3 M1.105a4 M1.105a5 M1.105a6 M1.105a7 M1.105a8 ",
    "M1.105a9 M1.105aa M1.105ab M1.105ac M1.105ad M1.105ae M1.105af M1.105b0 M1.105b1 X1 ",
    "M1.105b3 M1.105b4 M1.105b5 M1.105b6 M1.105b7 M1.105b8 M1.105b9 X1 M1.105bb M1.105bc X1 ",
    "V1 Xb V1 Xf V1 X7 V1 X2 V3 X34 Vc X137 V9 X16 Va X8 V18 M1.2d0 M1.2d1 M1.e6 M1.299 ",
    "M1.253 X1 M1.2a3 M1.ab66 M1.2a5 M1.2a4 M1.256 M1.257 M1.1d91 M1.258 M1.25e M1.2a9 M1.264 ",
    "M1.262 M1.260 M1.29b M1.127 M1.29c M1.267 M1.284 M1.2aa M1.2ab M1.26c M1.1df04 M1.a78e ",
    "M1.26e M1.1df05 M1.28e M1.1df06 M1.f8 M1.276 M1.277 M1.71 M1.27a M1.1df08 M1.27d M1.27e ",
    "M1.280 M1.2a8 M1.2a6 M1.ab67 M1.2a7 M1.288 M1.2c71 X1 M1.28f M1.2a1 M1.2a2 M1.298 M1.1c0 ",
    "M1.1c1 M1.1c2 M1.1df0a M1.1df1e X1 V45 X6 V2 X1 V1 X2c V1 X2 V3 X1 V2 X17 V1 X48 V8 X9 ",
    "V30 X13 V1 X2 V5 X21 V3 X1b V5 X1b V26 X38 V4 X14 V2 X32 V1 X2 V5 X8 V1 X3 V1 X1d V2 X3 ",
    "V4 Xa V7 X9 V7 X40 V20 X27 V4 Xc V9 X36 V3 X1d V2 X1b V5 X1a V7 X4 Vc X7 V50 X49 ",
    "M37.10cc0 M1.10cc1 M1.10cc2 M1.10cc3 M1.10cc4 M1.10cc5 M1.10cc6 M1.10cc7 M1.10cc8 ",
    "M1.10cc9 M1.10cca M1.10ccb M1.10ccc M1.10ccd M1.10cce M1.10ccf M1.10cd0 M1.10cd1 ",
    "M1.10cd2 M1.10cd3 M1.10cd4 M1.10cd5 M1.10cd6 M1.10cd7 M1.10cd8 M1.10cd9 M1.10cda ",
    "M1.10cdb M1.10cdc M1.10cdd M1.10cde M1.10cdf M1.10ce0 M1.10ce1 M1.10ce2 M1.10ce3 ",
    "M1.10ce4 M1.10ce5 M1.10ce6 M1.10ce7 M1.10ce8 M1.10ce9 M1.10cea M1.10ceb M1.10cec ",
    "M1.10ced M1.10cee M1.10cef M1.10cf0 M1.10cf1 M1.10cf2 X1 Vd X33 V7 X2e V8 Xa V6 ",
    "M10.10d70 M1.10d71 M1.10d72 M1.10d73 M1.10d74 M1.10d75 M1.10d76 M1.10d77 M1.10d78 ",
    "M1.10d79 M1.10d7a M1.10d7b M1.10d7c M1.10d7d M1.10d7e M1.10d7f M1.10d80 M1.10d81 ",
    "M1.10d82 M1.10d83 M1.10d84 M1.10d85 X1 V3 X1d V8 X2 Vd0 X1f V1 X2a V1 X3 V2 X2 V10 X6 V8 ",
    "X9 V21 X2e V8 X2a V16 X1a V26 X1c V14 X17 V9 X4e V4 X24 V9 X3e V1 X5 Vd X19 V7 Xa V6 X35 ",
    "V1 X12 V8 X27 V9 X60 V1 X14 Vb X12 V1 X2f V3e X7 V1 X1 V1 X4 V1 Xf V1 Xb V6 X3b V5 Xa V6 ",
    "X4 V1 X8 V2 X2 V2 X16 V1 X7 V1 X2 V1 X5 V1 Xa V2 X2 V2 X3 V2 X1 V6 X1 V5 X7 V2 X7 V3 X5 ",
    "Vb Xa V1 X1 V2 X1 V1 X26 V1 Xa V1 X1 V2 X1 V1 X4 V1 Xa V1 X2 V8 X2 V1d X5c V1 X5 V1e X48 ",
    "V8 Xa Va6 X36 V2 X26 V22 X45 Vb Xa V6 Xd V13 X3a V6 Xa V6 X14 V1c X1b V2 Xf V4 X17 Vb9 ",
    "X3c M64.118c0 M1.118c1 M1.118c2 M1.118c3 M1.118c4 M1.118c5 M1.118c6 M1.118c7 M1.118c8 ",
    "M1.118c9 M1.118ca M1.118cb M1.118cc M1.118cd M1.118ce M1.118cf M1.118d0 M1.118d1 ",
    "M1.118d2 M1.118d3 M1.118d4 M1.118d5 M1.118d6 M1.118d7 M1.118d8 M1.118d9 M1.118da ",
    "M1.118db M1.118dc M1.118dd M1.118de M1.118df V1 X33 Vc X8 V2 X1 V2 X8 V1 X2 V1 X1e V1 X2 ",
    "V2 Xc V9 Xa V46 X8 V2 X2e V2 Xb V1b X48 V8 X53 Vd X49 V7 Xa V56 X8 V58 X22 Ve Xa V6 X9 ",
    "V1 X2d V1 Xe Va X1d V3 X20 V2 X16 V1 Xe V49 X7 V1 X2 V1 X2c V3 X1 V1 X2 V1 X9 V8 Xa V6 ",
    "X6 V1 X2 V1 X25 V1 X2 V1 X6 V7 Xa V6 X2c V4 Xa Vf6 X19 V7 X11 V1 X29 V3 X1d V55 X1 Vf ",
    "X32 Vd X39b V66 X6f V1 X5 Vb Xc4 Va4c X63 Vd X430 V10 X16 Va Xf9b V5 X247 V1ab9 X3a V6c6 ",
    "X239 V7 X1f V1 Xa V4 X51 V1 Xa V6 X1e V2 X6 Va X46 Va Xa V1 X7 V1 X15 V5 X13 V1b0 X3a ",
    "Mc6.16e60 M1.16e61 M1.16e62 M1.16e63 M1.16e64 M1.16e65 M1.16e66 M1.16e67 M1.16e68 ",
    "M1.16e69 M1.16e6a M1.16e6b M1.16e6c M1.16e6d M1.16e6e M1.16e6f M1.16e70 M1.16e71 ",
    "M1.16e72 M1.16e73 M1.16e74 M1.16e75 M1.16e76 M1.16e77 M1.16e78 M1.16e79 M1.16e7a ",
    "M1.16e7b M1.16e7c M1.16e7d M1.16e7e M1.16e7f V1 X3b M5.16ebb M1.16ebc M1.16ebd M1.16ebe ",
    "M1.16ebf M1.16ec0 M1.16ec1 M1.16ec2 M1.16ec3 M1.16ec4 M1.16ec5 M1.16ec6 M1.16ec7 ",
    "M1.16ec8 M1.16ec9 M1.16eca M1.16ecb M1.16ecc M1.16ecd M1.16ece M1.16ecf M1.16ed0 ",
    "M1.16ed1 M1.16ed2 M1.16ed3 X1 V2 X19 V2c X4b V4 X39 V7 X11 V40 X5 Vb X7 V9 X1cd6 V29 X20 ",
    "V61 X73 V21fd X4 V1 X7 V1 X2 V1 X123 Vf X1 V1d X3 V2 X1 Ve X4 V8 X18c V904 X6b V5 Xd V3 ",
    "X9 V7 Xa V2 I4 X4 Vf5c Md6.61 M1.62 M1.63 M1.64 M1.65 M1.66 M1.67 M1.68 M1.69 M1.6a ",
    "M1.6b M1.6c M1.6d M1.6e M1.6f M1.70 M1.71 M1.72 M1.73 M1.74 M1.75 M1.76 M1.77 M1.78 ",
    "M1.79 M1.7a M1.30 M1.31 M1.32 M1.33 M1.34 M1.35 M1.36 M1.37 M1.38 M1.39 V1 X3 V3 X1b4 V6 ",
    "X17 Vf X11 Vf X2e V2 X17 V9 X74 V3c Xf6 Va X27 V2 M35.1d157.1d165 M1.1d158.1d165 ",
    "M1.1d158.1d165.1d16e M1.1d158.1d165.1d16f M1.1d158.1d165.1d170 M1.1d158.1d165.1d171 ",
    "M1.1d158.1d165.1d172 V1 Ie V8 M40.1d1b9.1d165 M1.1d1ba.1d165 M1.1d1b9.1d165.1d16e ",
    "M1.1d1ba.1d165.1d16e M1.1d1b9.1d165.1d16f M1.1d1ba.1d165.1d16f V1 X2a V15 X46 V7a X14 Vc ",
    "X14 Vc X57 V9 X19 M87.61 M1.62 M1.63 M1.64 M1.65 M1.66 M1.67 M1.68 M1.69 M1.6a M1.6b ",
    "M1.6c M1.6d M1.6e M1.6f M1.70 M1.71 M1.72 M1.73 M1.74 M1.75 M1.76 M1.77 M1.78 M1.79 ",
    "M1.7a M1.61 M1.62 M1.63 M1.64 M1.65 M1.66 M1.67 M1.68 M1.69 M1.6a M1.6b M1.6c M1.6d ",
    "M1.6e M1.6f M1.70 M1.71 M1.72 M1.73 M1.74 M1.75 M1.76 M1.77 M1.78 M1.79 M1.7a M1.61 ",
    "M1.62 M1.63 M1.64 M1.65 M1.66 M1.67 M1.68 M1.69 M1.6a M1.6b M1.6c M1.6d M1.6e M1.6f ",
    "M1.70 M1.71 M1.72 M1.73 M1.74 M1.75 M1.76 M1.77 M1.78 M1.79 M1.7a M1.61 M1.62 M1.63 ",
    "M1.64 M1.65 M1.66 M1.67 X1 M1.69 M1.6a M1.6b M1.6c M1.6d M1.6e M1.6f M1.70 M1.71 M1.72 ",
    "M1.73 M1.74 M1.75 M1.76 M1.77 M1.78 M1.79 M1.7a M1.61 M1.62 M1.63 M1.64 M1.65 M1.66 ",
    "M1.67 M1.68 M1.69 M1.6a M1.6b M1.6c M1.6d M1.6e M1.6f M1.70 M1.71 M1.72 M1.73 M1.74 ",
    "M1.75 M1.76 M1.77 M1.78 M1.79 M1.7a M1.61 M1.62 M1.63 M1.64 M1.65 M1.66 M1.67 M1.68 ",
    "M1.69 M1.6a M1.6b M1.6c M1.6d M1.6e M1.6f M1.70 M1.71 M1.72 M1.73 M1.74 M1.75 M1.76 ",
    "M1.77 M1.78 M1.79 M1.7a M1.61 X1 M1.63 M1.64 X1 M2.67 X1 M2.6a M1.6b X1 M2.6e M1.6f ",
    "M1.70 M1.71 X1 M1.73 M1.74 M1.75 M1.76 M1.77 M1.78 M1.79 M1.7a M1.61 M1.62 M1.63 M1.64 ",
    "X1 M1.66 X1 M1.68 M1.69 M1.6a M1.6b M1.6c M1.6d M1.6e X1 M1.70 M1.71 M1.72 M1.73 M1.74 ",
    "M1.75 M1.76 M1.77 M1.78 M1.79 M1.7a M1.61 M1.62 M1.63 M1.64 M1.65 M1.66 M1.67 M1.68 ",
    "M1.69 M1.6a M1.6b M1.6c M1.6d M1.6e M1.6f M1.70 M1.71 M1.72 M1.73 M1.74 M1.75 M1.76 ",
    "M1.77 M1.78 M1.79 M1.7a M1.61 M1.62 M1.63 M1.64 M1.65 M1.66 M1.67 M1.68 M1.69 M1.6a ",
    "M1.6b M1.6c M1.6d M1.6e M1.6f M1.70 M1.71 M1.72 M1.73 M1.74 M1.75 M1.76 M1.77 M1.78 ",
    "M1.79 M1.7a M1.61 M1.62 X1 M1.64 M1.65 M1.66 M1.67 X1 M2.6a M1.6b M1.6c M1.6d M1.6e ",
    "M1.6f M1.70 M1.71 X1 M1.73 M1.74 M1.75 M1.76 M1.77 M1.78 M1.79 X1 M1.61 M1.62 M1.63 ",
    "M1.64 M1.65 M1.66 M1.67 M1.68 M1.69 M1.6a M1.6b M1.6c M1.6d M1.6e M1.6f M1.70 M1.71 ",
    "M1.72 M1.73 M1.74 M1.75 M1.76 M1.77 M1.78 M1.79 M1.7a M1.61 M1.62 X1 M1.64 M1.65 M1.66 ",
    "M1.67 X1 M1.69 M1.6a M1.6b M1.6c M1.6d X1 M1.6f X1 M3.73 M1.74 M1.75 M1.76 M1.77 M1.78 ",
    "M1.79 X1 M1.61 M1.62 M1.63 M1.64 M1.65 M1.66 M1.67 M1.68 M1.69 M1.6a M1.6b M1.6c M1.6d ",
    "M1.6e M1.6f M1.70 M1.71 M1.72 M1.73 M1.74 M1.75 M1.76 M1.77 M1.78 M1.79 M1.7a M1.61 ",
    "M1.62 M1.63 M1.64 M1.65 M1.66 M1.67 M1.68 M1.69 M1.6a M1.6b M1.6c M1.6d M1.6e M1.6f ",
    "M1.70 M1.71 M1.72 M1.73 M1.74 M1.75 M1.76 M1.77 M1.78 M1.79 M1.7a M1.61 M1.62 M1.63 ",
    "M1.64 M1.65 M1.66 M1.67 M1.68 M1.69 M1.6a M1.6b M1.6c M1.6d M1.6e M1.6f M1.70 M1.71 ",
    "M1.72 M1.73 M1.74 M1.75 M1.76 M1.77 M1.78 M1.79 M1.7a M1.61 M1.62 M1.63 M1.64 M1.65 ",
    "M1.66 M1.67 M1.68 M1.69 M1.6a M1.6b M1.6c M1.6d M1.6e M1.6f M1.70 M1.71 M1.72 M1.73 ",
    "M1.74 M1.75 M1.76 M1.77 M1.78 M1.79 M1.7a M1.61 M1.62 M1.63 M1.64 M1.65 M1.66 M1.67 ",
    "M1.68 M1.69 M1.6a M1.6b M1.6c M1.6d M1.6e M1.6f M1.70 M1.71 M1.72 M1.73 M1.74 M1.75 ",
    "M1.76 M1.77 M1.78 M1.79 M1.7a M1.61 M1.62 M1.63 M1.64 M1.65 M1.66 M1.67 M1.68 M1.69 ",
    "M1.6a M1.6b M1.6c M1.6d M1.6e M1.6f M1.70 M1.71 M1.72 M1.73 M1.74 M1.75 M1.76 M1.77 ",
    "M1.78 M1.79 M1.7a M1.61 M1.62 M1.63 M1.64 M1.65 M1.66 M1.67 M1.68 M1.69 M1.6a M1.6b ",
    "M1.6c M1.6d M1.6e M1.6f M1.70 M1.71 M1.72 M1.73 M1.74 M1.75 M1.76 M1.77 M1.78 M1.79 ",
    "M1.7a M1.61 M1.62 M1.63 M1.64 M1.65 M1.66 M1.67 M1.68 M1.69 M1.6a M1.6b M1.6c M1.6d ",
    "M1.6e M1.6f M1.70 M1.71 M1.72 M1.73 M1.74 M1.75 M1.76 M1.77 M1.78 M1.79 M1.7a M1.61 ",
    "M1.62 M1.63 M1.64 M1.65 M1.66 M1.67 M1.68 M1.69 M1.6a M1.6b M1.6c M1.6d M1.6e M1.6f ",
    "M1.70 M1.71 M1.72 M1.73 M1.74 M1.75 M1.76 M1.77 M1.78 M1.79 M1.7a M1.61 M1.62 M1.63 ",
    "M1.64 M1.65 M1.66 M1.67 M1.68 M1.69 M1.6a M1.6b M1.6c M1.6d M1.6e M1.6f M1.70 M1.71 ",
    "M1.72 M1.73 M1.74 M1.75 M1.76 M1.77 M1.78 M1.79 M1.7a M1.61 M1.62 M1.63 M1.64 M1.65 ",
    "M1.66 M1.67 M1.68 M1.69 M1.6a M1.6b M1.6c M1.6d M1.6e M1.6f M1.70 M1.71 M1.72 M1.73 ",
    "M1.74 M1.75 M1.76 M1.77 M1.78 M1.79 M1.7a M1.61 M1.62 M1.63 M1.64 M1.65 M1.66 M1.67 ",
    "M1.68 M1.69 M1.6a M1.6b M1.6c M1.6d M1.6e M1.6f M1.70 M1.71 M1.72 M1.73 M1.74 M1.75 ",
    "M1.76 M1.77 M1.78 M1.79 M1.7a M1.61 M1.62 M1.63 M1.64 M1.65 M1.66 M1.67 M1.68 M1.69 ",
    "M1.6a M1.6b M1.6c M1.6d M1.6e M1.6f M1.70 M1.71 M1.72 M1.73 M1.74 M1.75 M1.76 M1.77 ",
    "M1.78 M1.79 M1.7a M1.131 M1.237 X1 M2.3b1 M1.3b2 M1.3b3 M1.3b4 M1.3b5 M1.3b6 M1.3b7 ",
    "M1.3b8 M1.3b9 M1.3ba M1.3bb M1.3bc M1.3bd M1.3be M1.3bf M1.3c0 M1.3c1 M1.3b8 M1.3c3 ",
    "M1.3c4 M1.3c5 M1.3c6 M1.3c7 M1.3c8 M1.3c9 M1.2207 M1.3b1 M1.3b2 M1.3b3 M1.3b4 M1.3b5 ",
    "M1.3b6 M1.3b7 M1.3b8 M1.3b9 M1.3ba M1.3bb M1.3bc M1.3bd M1.3be M1.3bf M1.3c0 M1.3c1 ",
    "M1.3c3 M2.3c4 M1.3c5 M1.3c6 M1.3c7 M1.3c8 M1.3c9 M1.2202 M1.3b5 M1.3b8 M1.3ba M1.3c6 ",
    "M1.3c1 M1.3c0 M1.3b1 M1.3b2 M1.3b3 M1.3b4 M1.3b5 M1.3b6 M1.3b7 M1.3b8 M1.3b9 M1.3ba ",
    "M1.3bb M1.3bc M1.3bd M1.3be M1.3bf M1.3c0 M1.3c1 M1.3b8 M1.3c3 M1.3c4 M1.3c5 M1.3c6 ",
    "M1.3c7 M1.3c8 M1.3c9 M1.2207 M1.3b1 M1.3b2 M1.3b3 M1.3b4 M1.3b5 M1.3b6 M1.3b7 M1.3b8 ",
    "M1.3b9 M1.3ba M1.3bb M1.3bc M1.3bd M1.3be M1.3bf M1.3c0 M1.3c1 M1.3c3 M2.3c4 M1.3c5 ",
    "M1.3c6 M1.3c7 M1.3c8 M1.3c9 M1.2202 M1.3b5 M1.3b8 M1.3ba M1.3c6 M1.3c1 M1.3c0 M1.3b1 ",
    "M1.3b2 M1.3b3 M1.3b4 M1.3b5 M1.3b6 M1.3b7 M1.3b8 M1.3b9 M1.3ba M1.3bb M1.3bc M1.3bd ",
    "M1.3be M1.3bf M1.3c0 M1.3c1 M1.3b8 M1.3c3 M1.3c4 M1.3c5 M1.3c6 M1.3c7 M1.3c8 M1.3c9 ",
    "M1.2207 M1.3b1 M1.3b2 M1.3b3 M1.3b4 M1.3b5 M1.3b6 M1.3b7 M1.3b8 M1.3b9 M1.3ba M1.3bb ",
    "M1.3bc M1.3bd M1.3be M1.3bf M1.3c0 M1.3c1 M1.3c3 M2.3c4 M1.3c5 M1.3c6 M1.3c7 M1.3c8 ",
    "M1.3c9 M1.2202 M1.3b5 M1.3b8 M1.3ba M1.3c6 M1.3c1 M1.3c0 M1.3b1 M1.3b2 M1.3b3 M1.3b4 ",
    "M1.3b5 M1.3b6 M1.3b7 M1.3b8 M1.3b9 M1.3ba M1.3bb M1.3bc M1.3bd M1.3be M1.3bf M1.3c0 ",
    "M1.3c1 M1.3b8 M1.3c3 M1.3c4 M1.3c5 M1.3c6 M1.3c7 M1.3c8 M1.3c9 M1.2207 M1.3b1 M1.3b2 ",
    "M1.3b3 M1.3b4 M1.3b5 M1.3b6 M1.3b7 M1.3b8 M1.3b9 M1.3ba M1.3bb M1.3bc M1.3bd M1.3be ",
    "M1.3bf M1.3c0 M1.3c1 M1.3c3 M2.3c4 M1.3c5 M1.3c6 M1.3c7 M1.3c8 M1.3c9 M1.2202 M1.3b5 ",
    "M1.3b8 M1.3ba M1.3c6 M1.3c1 M1.3c0 M1.3b1 M1.3b2 M1.3b3 M1.3b4 M1.3b5 M1.3b6 M1.3b7 ",
    "M1.3b8 M1.3b9 M1.3ba M1.3bb M1.3bc M1.3bd M1.3be M1.3bf M1.3c0 M1.3c1 M1.3b8 M1.3c3 ",
    "M1.3c4 M1.3c5 M1.3c6 M1.3c7 M1.3c8 M1.3c9 M1.2207 M1.3b1 M1.3b2 M1.3b3 M1.3b4 M1.3b5 ",
    "M1.3b6 M1.3b7 M1.3b8 M1.3b9 M1.3ba M1.3bb M1.3bc M1.3bd M1.3be M1.3bf M1.3c0 M1.3c1 ",
    "M1.3c3 M2.3c4 M1.3c5 M1.3c6 M1.3c7 M1.3c8 M1.3c9 M1.2202 M1.3b5 M1.3b8 M1.3ba M1.3c6 ",
    "M1.3c1 M1.3c0 M1.3dd X2 M2.30 M1.31 M1.32 M1.33 M1.34 M1.35 M1.36 M1.37 M1.38 M1.39 ",
    "M1.30 M1.31 M1.32 M1.33 M1.34 M1.35 M1.36 M1.37 M1.38 M1.39 M1.30 M1.31 M1.32 M1.33 ",
    "M1.34 M1.35 M1.36 M1.37 M1.38 M1.39 M1.30 M1.31 M1.32 M1.33 M1.34 M1.35 M1.36 M1.37 ",
    "M1.38 M1.39 M1.30 M1.31 M1.32 M1.33 M1.34 M1.35 M1.36 M1.37 M1.38 M1.39 V1 X28c Vf X5 V1 ",
    "Xf V450 X1f V6 X6 Vd5 X7 V1 X11 V2 X7 V1 X2 V1 X5 M5.430 M1.431 M1.432 M1.433 M1.434 ",
    "M1.435 M1.436 M1.437 M1.438 M1.43a M1.43b M1.43c M1.43e M1.43f M1.440 M1.441 M1.442 ",
    "M1.443 M1.444 M1.445 M1.446 M1.447 M1.448 M1.44b M1.44d M1.44e M1.a689 M1.4d9 M1.456 ",
    "M1.458 M1.4e9 M1.4af M1.4cf M1.430 M1.431 M1.432 M1.433 M1.434 M1.435 M1.436 M1.437 ",
    "M1.438 M1.43a M1.43b M1.43e M1.43f M1.441 M1.443 M1.444 M1.445 M1.446 M1.447 M1.448 ",
    "M1.44a M1.44b M1.491 M1.456 M1.455 M1.45f M1.4ab M1.a651 M1.4b1 X1 V21 X1 V70 X2d V3 Xe ",
    "V2 Xa V4 X2 V140 X1f V11 X3a V5 X1 V1d0 X2a Vd6 X2b V4 X1 Vc0 X1f V1 X16 V8 X2 Ve0 X7 V1 ",
    "X4 V1 X2 V1 Xf V1 Xc5 V2 X10 M29.1e922 M1.1e923 M1.1e924 M1.1e925 M1.1e926 M1.1e927 ",
    "M1.1e928 M1.1e929 M1.1e92a M1.1e92b M1.1e92c M1.1e92d M1.1e92e M1.1e92f M1.1e930 ",
    "M1.1e931 M1.1e932 M1.1e933 M1.1e934 M1.1e935 M1.1e936 M1.1e937 M1.1e938 M1.1e939 ",
    "M1.1e93a M1.1e93b M1.1e93c M1.1e93d M1.1e93e M1.1e93f M1.1e940 M1.1e941 M1.1e942 ",
    "M1.1e943 V1 X2a V4 Xa V4 X2 V311 X44 V4c X3d Mc2.627 M1.628 M1.62c M1.62f X1 M1.648 ",
    "M1.632 M1.62d M1.637 M1.64a M1.643 M1.644 M1.645 M1.646 M1.633 M1.639 M1.641 M1.635 ",
    "M1.642 M1.631 M1.634 M1.62a M1.62b M1.62e M1.630 M1.636 M1.638 M1.63a M1.66e M1.6ba ",
    "M1.6a1 M1.66f X1 M1.628 M1.62c X1 M1.647 X1 M2.62d X1 M1.64a M1.643 M1.644 M1.645 M1.646 ",
    "M1.633 M1.639 M1.641 M1.635 M1.642 X1 M1.634 M1.62a M1.62b M1.62e X1 M1.636 X1 M1.63a X1 ",
    "M6.62c X1 M4.62d X1 M1.64a X1 M1.644 X1 M1.646 M1.633 M1.639 X1 M1.635 M1.642 X1 M1.634 ",
    "X1 M2.62e X1 M1.636 X1 M1.63a X1 M1.6ba X1 M1.66f X1 M1.628 M1.62c X1 M1.647 X1 M2.62d ",
    "M1.637 M1.64a M1.643 X1 M1.645 M1.646 M1.633 M1.639 M1.641 M1.635 M1.642 X1 M1.634 ",
    "M1.62a M1.62b M1.62e X1 M1.636 M1.638 M1.63a M1.66e X1 M1.6a1 X1 M1.627 M1.628 M1.62c ",
    "M1.62f M1.647 M1.648 M1.632 M1.62d M1.637 M1.64a X1 M1.644 M1.645 M1.646 M1.633 M1.639 ",
    "M1.641 M1.635 M1.642 M1.631 M1.634 M1.62a M1.62b M1.62e M1.630 M1.636 M1.638 M1.63a X1 ",
    "M5.628 M1.62c M1.62f X1 M1.648 M1.632 M1.62d M1.637 M1.64a X1 M1.644 M1.645 M1.646 ",
    "M1.633 M1.639 M1.641 M1.635 M1.642 M1.631 M1.634 M1.62a M1.62b M1.62e M1.630 M1.636 ",
    "M1.638 M1.63a X1 V34 X2 V10e X2c V4 X64 Vc Xf V2 Xf V1 Xf V1 X25 Mb.30.2c M1.31.2c ",
    "M1.32.2c M1.33.2c M1.34.2c M1.35.2c M1.36.2c M1.37.2c M1.38.2c M1.39.2c V1 M5.28.61.29 ",
    "M1.28.62.29 M1.28.63.29 M1.28.64.29 M1.28.65.29 M1.28.66.29 M1.28.67.29 M1.28.68.29 ",
    "M1.28.69.29 M1.28.6a.29 M1.28.6b.29 M1.28.6c.29 M1.28.6d.29 M1.28.6e.29 M1.28.6f.29 ",
    "M1.28.70.29 M1.28.71.29 M1.28.72.29 M1.28.73.29 M1.28.74.29 M1.28.75.29 M1.28.76.29 ",
    "M1.28.77.29 M1.28.78.29 M1.28.79.29 M1.28.7a.29 M1.3014.73.3015 M1.63 M1.72 M1.63.64 ",
    "M1.77.7a V1 M1.61 M1.62 M1.63 M1.64 M1.65 M1.66 M1.67 M1.68 M1.69 M1.6a M1.6b M1.6c ",
    "M1.6d M1.6e M1.6f M1.70 M1.71 M1.72 M1.73 M1.74 M1.75 M1.76 M1.77 M1.78 M1.79 M1.7a ",
    "M1.68.76 M1.6d.76 M1.73.64 M1.73.73 M1.70.70.76 M1.77.63 V1 M1a.6d.63 M1.6d.64 M1.6d.72 ",
    "V1 M23.64.6a V1 X1d V38 M1a.307b.304b M1.30b3.30b3 M1.30b5 X1 Md.624b M1.5b57 M1.53cc ",
    "M1.30c7 M1.4e8c M1.591a M1.89e3 M1.5929 M1.4ea4 M1.6620 M1.7121 M1.6599 M1.524d M1.5f8c ",
    "M1.518d M1.65b0 M1.521d M1.7d42 M1.751f M1.8ca9 M1.58f0 M1.5439 M1.6f14 M1.6295 M1.6355 ",
    "M1.4e00 M1.4e09 M1.904a M1.5de6 M1.4e2d M1.53f3 M1.6307 M1.8d70 M1.6253 M1.7981 M1.7a7a ",
    "M1.5408 M1.6e80 M1.6709 M1.6708 M1.7533 M1.5272 M1.55b6 M1.914d X1 M4.3014.672c.3015 ",
    "M1.3014.4e09.3015 M1.3014.4e8c.3015 M1.3014.5b89.3015 M1.3014.70b9.3015 ",
    "M1.3014.6253.3015 M1.3014.76d7.3015 M1.3014.52dd.3015 M1.3014.6557.3015 X1 M7.5f97 ",
    "M1.53ef X1 Ve X6 V9a X3d9 V3 X11 V3 Xd V3 Xda V6 Xc V4 X1 Vf Xc V4 X38 V8 Xa V6 X28 V8 ",
    "X1e V2 Xc V4 X2 Ve X9 V27 X158 V8 Xe V2 Xd V3 Xb V3 X39 V1 X1 V4 X10 V2 Xc V4 Xa V7 X93 ",
    "V1 M5c.30 M1.31 M1.32 M1.33 M1.34 M1.35 M1.36 M1.37 M1.38 M1.39 V1 X1 V405 Xa6e0 V20 ",
    "X111e V2 X168e V2 X1d31 Vf X26e M9a2.4e3d M1.4e38 M1.4e41 M1.20122 M1.4f60 M1.4fae ",
    "M1.4fbb M1.5002 M1.507a M1.5099 M1.50e7 M1.50cf M1.349e M1.2063a M1.514d M1.5154 M1.5164 ",
    "M1.5177 M1.2051c M1.34b9 M1.5167 M1.518d M1.2054b M1.5197 M1.51a4 M1.4ecc M1.51ac ",
    "M1.51b5 M1.291df M1.51f5 M1.5203 M1.34df M1.523b M1.5246 M1.5272 M1.5277 M1.3515 M1.52c7 ",
    "M1.52c9 M1.52e4 M1.52fa M1.5305 M1.5306 M1.5317 M1.5349 M1.5351 M1.535a M1.5373 M1.537d ",
    "M1.537f M3.20a2c M1.7070 M1.53ca M1.53df M1.20b63 M1.53eb M1.53f1 M1.5406 M1.549e ",
    "M1.5438 M1.5448 M1.5468 M1.54a2 M1.54f6 M1.5510 M1.5553 M1.5563 M1.5584 M2.5599 M1.55ab ",
    "M1.55b3 M1.55c2 M1.5716 M1.5606 M1.5717 M1.5651 M1.5674 M1.5207 M1.58ee M1.57ce M1.57f4 ",
    "M1.580d M1.578b M1.5832 M1.5831 M1.58ac M1.214e4 M1.58f2 M1.58f7 M1.5906 M1.591a M1.5922 ",
    "M1.5962 M1.216a8 M1.216ea M1.59ec M1.5a1b M1.5a27 M1.59d8 M1.5a66 M1.36ee M1.36fc ",
    "M1.5b08 M1.5b3e M2.219c8 M1.5bc3 M1.5bd8 M1.5be7 M1.5bf3 M1.21b18 M1.5bff M1.5c06 ",
    "M1.5f53 M1.5c22 M1.3781 M1.5c60 M1.5c6e M1.5cc0 M1.5c8d M1.21de4 M1.5d43 M1.21de6 ",
    "M1.5d6e M1.5d6b M1.5d7c M1.5de1 M1.5de2 M1.382f M1.5dfd M1.5e28 M1.5e3d M1.5e69 M1.3862 ",
    "M1.22183 M1.387c M1.5eb0 M1.5eb3 M1.5eb6 M1.5eca M1.2a392 M1.5efe M1.22331 M2.8201 ",
    "M1.5f22 M2.38c7 M1.232b8 M1.261da M1.5f62 M1.5f6b M1.38e3 M1.5f9a M1.5fcd M1.5fd7 ",
    "M1.5ff9 M1.6081 M1.393a M1.391c M1.6094 M1.226d4 M1.60c7 M1.6148 M1.614c M1.614e M1.614c ",
    "M1.617a M1.618e M1.61b2 M1.61a4 M1.61af M1.61de M1.61f2 M1.61f6 M1.6210 M1.621b M1.625d ",
    "M1.62b1 M1.62d4 M1.6350 M1.22b0c M1.633d M1.62fc M1.6368 M1.6383 M1.63e4 M1.22bf1 ",
    "M1.6422 M1.63c5 M1.63a9 M1.3a2e M1.6469 M1.647e M1.649d M1.6477 M1.3a6c M1.654f M1.656c ",
    "M1.2300a M1.65e3 M1.66f8 M1.6649 M1.3b19 M1.6691 M1.3b08 M1.3ae4 M1.5192 M1.5195 M1.6700 ",
    "M1.669c M1.80ad M1.43d9 M1.6717 M1.671b M1.6721 M1.675e M1.6753 M1.233c3 M1.3b49 M1.67fa ",
    "M1.6785 M1.6852 M1.6885 M1.2346d M1.688e M1.681f M1.6914 M1.3b9d M1.6942 M1.69a3 M1.69ea ",
    "M1.6aa8 M1.236a3 M1.6adb M1.3c18 M1.6b21 M1.238a7 M1.6b54 M1.3c4e M1.6b72 M1.6b9f ",
    "M1.6bba M1.6bbb M1.23a8d M1.21d0b M1.23afa M1.6c4e M1.23cbc M1.6cbf M1.6ccd M1.6c67 ",
    "M1.6d16 M1.6d3e M1.6d77 M1.6d41 M1.6d69 M1.6d78 M1.6d85 M1.23d1e M1.6d34 M1.6e2f M1.6e6e ",
    "M1.3d33 M1.6ecb M1.6ec7 M1.23ed1 M1.6df9 M1.6f6e M1.23f5e M1.23f8e M1.6fc6 M1.7039 ",
    "M1.701e M1.701b M1.3d96 M1.704a M1.707d M1.7077 M1.70ad M1.20525 M1.7145 M1.24263 ",
    "M1.719c M1.243ab M1.7228 M1.7235 M1.7250 M1.24608 M1.7280 M1.7295 M1.24735 M1.24814 ",
    "M1.737a M1.738b M1.3eac M1.73a5 M1.3eb8 M2.7447 M1.745c M1.7471 M1.7485 M1.74ca M1.3f1b ",
    "M1.7524 M1.24c36 M1.753e M1.24c92 M1.7570 M1.2219f M1.7610 M1.24fa1 M1.24fb8 M1.25044 ",
    "M1.3ffc M1.4008 M1.76f4 M1.250f3 M1.250f2 M1.25119 M1.25133 M1.771e M1.771f M2.774a ",
    "M1.4039 M1.778b M1.4046 M1.4096 M1.2541d M1.784e M1.788c M1.78cc M1.40e3 M1.25626 ",
    "M1.7956 M1.2569a M1.256c5 M1.798f M1.79eb M1.412f M1.7a40 M1.7a4a M1.7a4f M1.2597c ",
    "M1.25aa7 M2.7aee M1.4202 M1.25bab M1.7bc6 M1.7bc9 M1.4227 M1.25c80 M1.7cd2 M1.42a0 ",
    "M1.7ce8 M1.7ce3 M1.7d00 M1.25f86 M1.7d63 M1.4301 M1.7dc7 M1.7e02 M1.7e45 M1.4334 ",
    "M1.26228 M1.26247 M1.4359 M1.262d9 M1.7f7a M1.2633e M1.7f95 M1.7ffa M1.8005 M1.264da ",
    "M1.26523 M1.8060 M1.265a8 M1.8070 M1.2335f M1.43d5 M1.80b2 M1.8103 M1.440b M1.813e ",
    "M1.5ab5 M1.267a7 M1.267b5 M1.23393 M1.2339c M1.8201 M1.8204 M1.8f9e M1.446b M1.8291 ",
    "M1.828b M1.829d M1.52b3 M1.82b1 M1.82b3 M1.82bd M1.82e6 M1.26b3c M1.82e5 M1.831d M1.8363 ",
    "M1.83ad M1.8323 M1.83bd M1.83e7 M1.8457 M1.8353 M1.83ca M1.83cc M1.83dc M1.26c36 ",
    "M1.26d6b M1.26cd5 M1.452b M1.84f1 M1.84f3 M1.8516 M1.273ca M1.8564 M1.26f2c M1.455d ",
    "M1.4561 M1.26fb1 M1.270d2 M1.456b M1.8650 M1.865c M1.8667 M1.8669 M1.86a9 M1.8688 ",
    "M1.870e M1.86e2 M1.8779 M1.8728 M1.876b M1.8786 M1.45d7 M1.87e1 M1.8801 M1.45f9 M1.8860 ",
    "M1.8863 M1.27667 M1.88d7 M1.88de M1.4635 M1.88fa M1.34bb M1.278ae M1.27966 M1.46be ",
    "M1.46c7 M1.8aa0 M1.8aed M1.8b8a M1.8c55 M1.27ca8 M1.8cab M1.8cc1 M1.8d1b M1.8d77 ",
    "M1.27f2f M1.20804 M1.8dcb M1.8dbc M1.8df0 M1.208de M1.8ed4 M1.8f38 M1.285d2 M1.285ed ",
    "M1.9094 M1.90f1 M1.9111 M1.2872e M1.911b M1.9238 M1.92d7 M1.92d8 M1.927c M1.93f9 M1.9415 ",
    "M1.28bfa M1.958b M1.4995 M1.95b7 M1.28d77 M1.49e6 M1.96c3 M1.5db2 M1.9723 M1.29145 ",
    "M1.2921a M1.4a6e M1.4a76 M1.97e0 M1.2940a M1.4ab2 M1.29496 M1.980b M2.9829 M1.295b6 ",
    "M1.98e2 M1.4b33 M1.9929 M1.99a7 M1.99c2 M1.99fe M1.4bce M1.29b30 M1.9b12 M1.9c40 M1.9cfd ",
    "M1.4cce M1.4ced M1.9d67 M1.2a0ce M1.4cf8 M1.2a105 M1.2a20e M1.2a291 M1.9ebb M1.4d56 ",
    "M1.9ef9 M1.9efe M1.9f05 M1.9f0f M1.9f16 M1.9f3b M1.2a600 X1 V5e2 X134b V5 X212a Iacc86 ",
    "Xf0"]

/-- Where each range starts, and its status. -/
def idnaMappingRanges : Array (Nat × IdnaStatus) :=
  ((Text.Table.withStarts (Text.Table.records idnaMappingText)).map fun (start, r) =>
    (start, IdnaStatus.ofRecord r)).toArray

/-- What mapping does with a character. -/
def idnaStatus (c : Char) : IdnaStatus :=
  match Text.Table.lastAtMost? idnaMappingRanges (·.1) c.toNat with
  | some (_, s) => s
  | none => .disallowed

end TaskQueue.Url
